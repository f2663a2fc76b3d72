import SandboxProfile.Content.Library
import SandboxProfile.Platform.Capability

/-! The configuration: what is logged and how, what a compilation falls back on, and for
which platform. -/
namespace SandboxProfile

inductive LogLevel where
  | debug
  | info
  | warning
  | error
  deriving Repr, DecidableEq

namespace LogLevel

def all : List LogLevel := [.debug, .info, .warning, .error]

def name : LogLevel → String
  | .debug => "DEBUG"
  | .info => "INFO"
  | .warning => "WARNING"
  | .error => "ERROR"

def severity : LogLevel → Severity
  | .debug => .debug
  | .info => .info
  | .warning => .warning
  | .error => .error

def ofName? (s : String) : Option LogLevel := all.find? (·.name == s)

end LogLevel

inductive LogFormat where
  | text
  | json
  deriving Repr, DecidableEq

namespace LogFormat

def name : LogFormat → String
  | .text => "text"
  | .json => "json"

def ofName? (s : String) : Option LogFormat := [text, json].find? (·.name == s)

end LogFormat

structure LogSettings where
  level : LogLevel := .warning
  format : LogFormat := .text
  deriving Repr, DecidableEq

structure CompileDefaults where
  library : String := Content.libraryName
  tier : Option Tier := some .level3
  roles : List String := [Content.defaultRole]
  deriving Repr, DecidableEq

/-- A version in the form in which it was given. -/
structure VersionText where
  text : String
  version : Version
  parse_text : Version.parse text = .ok version
  deriving Repr, DecidableEq

namespace VersionText

def ofText (s : String) : Except InvalidVersion VersionText :=
  match h : Version.parse s with
  | .ok v => .ok ⟨s, v, h⟩
  | .error fault => .error fault

def oldest : VersionText := ⟨"10.15", [10, 15], by rfl⟩

end VersionText

structure PlatformSettings where
  family : OSFamily := .macos
  least : VersionText := .oldest
  greatest : Option VersionText := none
  deriving Repr, DecidableEq

/-- The platform that is meant, unless its range of versions is empty. -/
def PlatformSettings.platform (s : PlatformSettings) : Except PlatformFault Platform :=
  Platform.create s.family s.least.version (s.greatest.map (·.version))

structure Config where
  logging : LogSettings := {}
  compile : CompileDefaults := {}
  platform : PlatformSettings := {}
  deriving Repr, DecidableEq

/-- Settings by name, in sections. -/
abbrev ConfigTable := List (String × List (String × Value))

namespace Config

/-- The sections of a configuration. Zero stands for no tier, behind all other defaults. -/
def sections (c : Config) : ConfigTable :=
  let compile := c.compile
  let library := ("library", Value.text compile.library)
  let roles := ("default_roles", Value.list (compile.roles.map .text))
  [ ("logging", [("level", .text c.logging.level.name), ("format", .text c.logging.format.name)]),
    ("compile",
      match compile.tier with
      | some t => [library, ("default_tier", .int t.toNat), roles]
      | none => [library, roles, ("default_tier", .int 0)]),
    ("platform",
      [("family", .text c.platform.family.name), ("min_version", .text c.platform.least.text)] ++
        match c.platform.greatest with
        | some v => [("max_version", .text v.text)]
        | none => []) ]

/-- The configuration as one table. -/
def toTable (c : Config) : List (Value × Value) :=
  c.sections.map fun (name, settings) =>
    (.text name, .table (settings.map fun (key, v) => (.text key, v)))

end Config
end SandboxProfile
