import SandboxProfile.Command.Options
import SandboxProfile.Files.Disk
import SandboxProfile.Platform.Capability
import SandboxProfile.Policy.Fragment
import SandboxProfile.Text.Integer

/-! Tasks that the command line asks for. Arguments that ask for none are a fault of usage,
of which nothing more is known. -/
namespace SandboxProfile
open Files (Disk)

inductive CommandName where
  | compile
  | explain
  | params
  | capabilities
  | config
  | version
  deriving Repr, DecidableEq

namespace CommandName

def all : List (String × CommandName) :=
  [("compile", .compile), ("explain", .explain), ("params", .params),
    ("capabilities", .capabilities), ("config", .config), ("version", .version)]

def ofName? (s : String) : Option CommandName := all.lookup s

end CommandName

/-- What the command line says about the document to compose. -/
structure Selection where
  file : String
  /-- Nothing, no tier, or a tier. -/
  tier : Option (Option Tier)
  roles : List String
  deriving Repr, DecidableEq

structure CapabilityQuery where
  family : Option OSFamily
  least : Option String
  greatest : Option String
  host : Bool
  json : Bool
  deriving Repr, DecidableEq

inductive Task where
  | compile (selection : Selection) (output : Option String)
  | explain (selection : Selection)
  | params (json : Bool)
  | capabilities (query : CapabilityQuery)
  | configInit (path : Option String) (force : Bool)
  | configShow (json : Bool)
  | version (json : Bool)
  | help
  deriving Repr, DecidableEq

/-- The options in front of a command. -/
structure RootOptions where
  config : Option String
  logLevel : Option String
  deriving Repr, DecidableEq

inductive RootRequest where
  | version
  | help
  | command (options : RootOptions) (name : CommandName) (arguments : List String)
  deriving Repr, DecidableEq

namespace Task

def flag (names : List String) : OptionSpec := ⟨names, false⟩

def valued (names : List String) : OptionSpec := ⟨names, true⟩

def helpFlag : OptionSpec := flag ["--help", "-h"]

def jsonFlag : OptionSpec := flag ["--json"]

/-- A value that is given and not empty. -/
def nonEmpty (value : Option String) : Option String := value.filter (· ≠ "")

/-- Whether a path may be that of a file. A missing file will do unless it must be there. -/
def mayBeFile (d : Disk) (mustExist : Bool) (path : String) : Bool :=
  match d.find path with
  | .ok (_, .folder) => false
  | .ok (_, .file _ _) => true
  | .error _ => !mustExist

/-- A tier by its number. Zero is no tier. -/
def tier? (s : String) : Option (Option Tier) :=
  match Text.readInteger s with
  | .ok 0 => some none
  | .ok i => (Tier.ofInt? i).map some
  | .error _ => none

/-- The value of an option, if it is given, in its own form. -/
def valueAs? (read : String → Option α) (value : Option String) : Option (Option α) :=
  match value with
  | none => some none
  | some s => (read s).map some

def selection? (d : Disk) (a : Arguments) : Option Selection :=
  match a.operands with
  | [file] =>
    if mayBeFile d true file then
      (valueAs? tier? (a.value? "--tier")).map fun tier => ⟨file, tier, a.values "--role"⟩
    else none
  | _ => none

def selectionSpecs : List OptionSpec := [valued ["--tier"], valued ["--role"], helpFlag]

/-- A task of a command without operands. -/
def plain (a : Arguments) (task : Task) : Option Task :=
  if a.operands.isEmpty then some task else none

/-- Reads the arguments of a command. Help goes before all else that the options say. -/
def ofArguments (specs : List OptionSpec) (args : List String) (task : Arguments → Option Task) :
    Option Task :=
  (Arguments.parse? specs false args).bind fun a => if a.has "--help" then some help else task a

def compile? (d : Disk) (args : List String) : Option Task :=
  ofArguments (valued ["--output", "-o"] :: selectionSpecs) args fun a => do
    let s ← selection? d a
    let output := a.value? "--output"
    if (output.map (mayBeFile d false)).getD true then some (.compile s (nonEmpty output)) else none

def explain? (d : Disk) (args : List String) : Option Task :=
  ofArguments selectionSpecs args fun a => (selection? d a).map .explain

def capabilities? (args : List String) : Option Task :=
  let specs := [valued ["--os"], valued ["--min-version"], valued ["--max-version"],
    flag ["--host"], jsonFlag, helpFlag]
  ofArguments specs args fun a => do
    let family ← valueAs? OSFamily.ofName? (a.value? "--os")
    plain a (.capabilities
      ⟨family, a.value? "--min-version", a.value? "--max-version", a.has "--host", a.has "--json"⟩)

def configInit? (d : Disk) (args : List String) : Option Task :=
  ofArguments [flag ["--force"], helpFlag] args fun a =>
    match a.operands with
    | [] => some (.configInit none (a.has "--force"))
    | [path] =>
      if mayBeFile d false path then some (.configInit (nonEmpty (some path)) (a.has "--force"))
      else none
    | _ => none

/-- A task whose only option is the form of its answer. -/
def withJson (args : List String) (task : Bool → Task) : Option Task :=
  ofArguments [jsonFlag, helpFlag] args fun a => plain a (task (a.has "--json"))

def config? (d : Disk) (args : List String) : Option Task :=
  match args with
  | [] => none
  | args => do
    let a ← Arguments.parse? [helpFlag] true args
    if a.has "--help" then some .help
    else
      match a.operands with
      | "init" :: rest => configInit? d rest
      | "show" :: rest => withJson rest .configShow
      | _ => none

/-- The task of a command. -/
def ofCommand? (d : Disk) (name : CommandName) (args : List String) : Option Task :=
  match name with
  | .compile => compile? d args
  | .explain => explain? d args
  | .params => withJson args .params
  | .capabilities => capabilities? args
  | .config => config? d args
  | .version => withJson args .version

end Task

/-- Reads the command line up to the arguments of the command. -/
def RootRequest.ofArguments? (d : Disk) (args : List String) : Option RootRequest := do
  let specs := [Task.flag ["--version", "-V"], Task.valued ["--config"],
    Task.valued ["--log-level"], Task.helpFlag]
  let a ← Arguments.parse? specs true args
  if args.isEmpty then none
  else if a.has "--version" then some .version
  else if a.has "--help" then some .help
  else
    let config := a.value? "--config"
    match a.operands with
    | name :: rest =>
      if (config.map (Task.mayBeFile d false)).getD true then
        (CommandName.ofName? name).map fun command =>
          .command ⟨Task.nonEmpty config, Task.nonEmpty (a.value? "--log-level")⟩ command rest
      else none
    | [] => none

end SandboxProfile
