import SandboxProfile.Command.Compile
import SandboxProfile.Command.Options
import SandboxProfile.Command.Outcome
import SandboxProfile.Command.Run
import SandboxProfile.Command.Task
import SandboxProfile.Config.Basic
import SandboxProfile.Config.Load
import SandboxProfile.Config.Overlay
import SandboxProfile.Config.Read
import SandboxProfile.Config.Save
import SandboxProfile.Console.Line
import SandboxProfile.Console.Markup
import SandboxProfile.Content.Base
import SandboxProfile.Content.Library
import SandboxProfile.Content.Names
import SandboxProfile.Content.Rules
import SandboxProfile.Digest.Sha256
import SandboxProfile.Files.Disk
import SandboxProfile.Files.Path
import SandboxProfile.Files.Tree
import SandboxProfile.Lock.Scope
import SandboxProfile.Lock.Settle
import SandboxProfile.Lock.Shared
import SandboxProfile.Log.Layout
import SandboxProfile.Log.Record
import SandboxProfile.Log.Template
import SandboxProfile.Log.Traced
import SandboxProfile.Main
import SandboxProfile.Moment
import SandboxProfile.Number.Arithmetic
import SandboxProfile.Number.Binary64
import SandboxProfile.Number.Reading
import SandboxProfile.Number.Shortest
import SandboxProfile.Parameter.Build
import SandboxProfile.Parameter.Catalogue
import SandboxProfile.Parameter.Coerce
import SandboxProfile.Parameter.Fault
import SandboxProfile.Parameter.Kind
import SandboxProfile.Parameter.Store
import SandboxProfile.Platform.Capability
import SandboxProfile.Platform.Version
import SandboxProfile.Policy.Compose
import SandboxProfile.Policy.Document
import SandboxProfile.Policy.Explain
import SandboxProfile.Policy.Fault
import SandboxProfile.Policy.Filter
import SandboxProfile.Policy.Fragment
import SandboxProfile.Policy.Guard
import SandboxProfile.Policy.Library
import SandboxProfile.Policy.RoleNames
import SandboxProfile.Policy.Statement
import SandboxProfile.Policy.Template
import SandboxProfile.Proofs.Content.Composable
import SandboxProfile.Proofs.Content.Gating
import SandboxProfile.Proofs.Content.Layout
import SandboxProfile.Proofs.Content.Logging
import SandboxProfile.Proofs.Content.Optional
import SandboxProfile.Proofs.Forecast
import SandboxProfile.Proofs.Form.Lossless
import SandboxProfile.Proofs.Form.Policy
import SandboxProfile.Proofs.Form.Reader
import SandboxProfile.Proofs.Form.Token
import SandboxProfile.Proofs.Lock.Exclusion
import SandboxProfile.Proofs.Lock.Notice
import SandboxProfile.Proofs.Lock.Run
import SandboxProfile.Proofs.Lock.Settlement
import SandboxProfile.Proofs.Outcome
import SandboxProfile.Proofs.Parameter.Built
import SandboxProfile.Proofs.Parameter.Outlook
import SandboxProfile.Proofs.Parameter.Reached
import SandboxProfile.Proofs.Policy.Alike
import SandboxProfile.Proofs.Policy.Composition
import SandboxProfile.Proofs.Policy.Confinement
import SandboxProfile.Proofs.Policy.Dependence
import SandboxProfile.Proofs.Policy.Extension
import SandboxProfile.Proofs.Policy.Forecast
import SandboxProfile.Proofs.Policy.Increase
import SandboxProfile.Proofs.Policy.Mention
import SandboxProfile.Proofs.Policy.Origin
import SandboxProfile.Proofs.Policy.Paired
import SandboxProfile.Proofs.Policy.Posture
import SandboxProfile.Proofs.Policy.Repetition
import SandboxProfile.Proofs.Policy.Requirement
import SandboxProfile.Proofs.Policy.Restriction
import SandboxProfile.Proofs.Policy.Roles
import SandboxProfile.Proofs.Policy.Sealed
import SandboxProfile.Proofs.Policy.Section
import SandboxProfile.Proofs.Policy.Supplied
import SandboxProfile.Proofs.Policy.Twin
import SandboxProfile.Proofs.Policy.Unquoted
import SandboxProfile.Proofs.Upheld
import SandboxProfile.Request.Basic
import SandboxProfile.Request.Load
import SandboxProfile.Request.Read
import SandboxProfile.Table
import SandboxProfile.Text.Base64
import SandboxProfile.Text.Blank
import SandboxProfile.Text.Case
import SandboxProfile.Text.Digit
import SandboxProfile.Text.Integer
import SandboxProfile.Text.Json
import SandboxProfile.Text.Layout
import SandboxProfile.Text.Printable
import SandboxProfile.Text.Quoted
import SandboxProfile.Text.Utf8
import SandboxProfile.Toml.Document
import SandboxProfile.Toml.Scalar
import SandboxProfile.Toml.Scan
import SandboxProfile.Toml.Text
import SandboxProfile.Toml.Writer
import SandboxProfile.Validation.Complaint
import SandboxProfile.Validation.Fields
import SandboxProfile.Validation.Lenient
import SandboxProfile.Value
import SandboxProfile.Yaml.Cursor
import SandboxProfile.Yaml.Fault
import SandboxProfile.Yaml.Load
import SandboxProfile.Yaml.Moment
import SandboxProfile.Yaml.Node
import SandboxProfile.Yaml.Scalar
import SandboxProfile.Yaml.Schema
import SandboxProfile.Yaml.Tag
import SandboxProfile.Yaml.Token
import SandboxProfile.Proofs.Policy.Finished
import SandboxProfile.Proofs.Parameter.Run
import SandboxProfile.Proofs.Policy.Visit
import SandboxProfile.Proofs.Policy.Explanation
import SandboxProfile.Proofs.Config.Reading
import SandboxProfile.Proofs.Config.Saved
import SandboxProfile.Proofs.Toml.Section
import SandboxProfile.Proofs.Files.Frame
import SandboxProfile.Proofs.Policy.Demand
import SandboxProfile.Proofs.Policy.Renaming
import SandboxProfile.Proofs.Config.Atomic
import SandboxProfile.Proofs.Console.Plain
import SandboxProfile.Proofs.Command.Arguments
import SandboxProfile.Proofs.Policy.Chosen
import SandboxProfile.Proofs.Command.Pipeline
import SandboxProfile.Proofs.Policy.Description
import SandboxProfile.Proofs.Lock.Overtaking
import SandboxProfile.Proofs.Lock.Nesting
import SandboxProfile.Proofs.Parameter.Refusal
import SandboxProfile.Proofs.Parameter.Reordering
import SandboxProfile.Proofs.Parameter.Rebuilt
import SandboxProfile.Proofs.Text.Numeral
import SandboxProfile.Proofs.Config.Overlay
import SandboxProfile.Proofs.Config.Escape
import SandboxProfile.Proofs.Config.Precedence
import SandboxProfile.Proofs.Policy.Account
import SandboxProfile.Proofs.Text.Trimming
import SandboxProfile.Proofs.Text.Integer
import SandboxProfile.Proofs.Text.Separation
import SandboxProfile.Proofs.Platform.Version
import SandboxProfile.Proofs.Policy.Pattern
import SandboxProfile.Proofs.Parameter.Retraction
import SandboxProfile.Proofs.Policy.Identity
import SandboxProfile.Proofs.Policy.RoleNames
