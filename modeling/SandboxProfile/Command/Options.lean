/-! Arguments of a command: options by name, with or without values, and what is left. A
long option may bring its value behind an equals sign, and short ones may share one dash;
two dashes end the options. -/
namespace SandboxProfile

structure OptionSpec where
  /-- The name that stands for all of them comes first. -/
  names : List String
  takesValue : Bool
  deriving Repr, DecidableEq

structure Arguments where
  /-- Options and their values, in order. Those without a value have an empty one. -/
  options : List (String × String)
  operands : List String
  deriving Repr, DecidableEq

namespace Arguments

def values (a : Arguments) (option : String) : List String :=
  (a.options.filter (·.1 == option)).map (·.2)

/-- The last value of an option that can be given once. -/
def value? (a : Arguments) (option : String) : Option String := (a.values option).getLast?

def has (a : Arguments) (option : String) : Bool := a.options.any (·.1 == option)

def withOptions (options : List (String × String)) (a : Arguments) : Arguments :=
  { a with options := options ++ a.options }

end Arguments

namespace OptionSpec

def key (o : OptionSpec) : String := o.names.headD ""

def find? (specs : List OptionSpec) (name : String) : Option OptionSpec :=
  specs.find? (·.names.contains name)

end OptionSpec

/-- What one argument gives: options, and perhaps one whose value is the next argument. -/
structure Given where
  options : List (String × String)
  pending : Option String

namespace Given

def long? (spec : OptionSpec) (value : Option String) : Option Given :=
  match spec.takesValue, value with
  | true, some v => some ⟨[(spec.key, v)], none⟩
  | true, none => some ⟨[], some spec.key⟩
  | false, some _ => none
  | false, none => some ⟨[(spec.key, "")], none⟩

/-- Letters behind one dash. The first that takes a value takes all that follows. -/
def short? (specs : List OptionSpec) : List Char → Option Given
  | [] => some ⟨[], none⟩
  | c :: cs =>
    match OptionSpec.find? specs (String.ofList ['-', c]) with
    | none => none
    | some spec =>
      if spec.takesValue then
        some (if cs.isEmpty then ⟨[], some spec.key⟩ else ⟨[(spec.key, String.ofList cs)], none⟩)
      else (short? specs cs).map fun g => { g with options := (spec.key, "") :: g.options }

def isShort (name : String) : Bool := name.length ≤ 2

/-- Reads an argument that starts with a dash. -/
def ofArgument? (specs : List OptionSpec) (arg : String) : Option Given :=
  let cs := arg.toList
  let name := String.ofList (cs.takeWhile (· ≠ '='))
  let value := match cs.dropWhile (· ≠ '=') with
    | [] => none
    | _ :: v => some (String.ofList v)
  match if isShort name then none else OptionSpec.find? specs name with
  | some spec => long? spec value
  | none => if ['-', '-'].isPrefixOf cs then none else short? specs (cs.drop 1)

end Given

namespace Arguments

def isOption (arg : String) : Bool := arg.toList.head? == some '-' && arg.length > 1

/-- Reads the arguments of a command. If options must come first, the first operand ends
them. -/
def parse? (specs : List OptionSpec) (optionsFirst : Bool) : List String → Option Arguments
  | [] => some ⟨[], []⟩
  | arg :: rest =>
    if arg = "--" then some ⟨[], rest⟩
    else if isOption arg then
      match Given.ofArgument? specs arg with
      | none => none
      | some ⟨options, none⟩ => (parse? specs optionsFirst rest).map (withOptions options)
      | some ⟨options, some key⟩ =>
        match rest with
        | [] => none
        | v :: rest => (parse? specs optionsFirst rest).map (withOptions (options ++ [(key, v)]))
    else if optionsFirst then some ⟨[], arg :: rest⟩
    else (parse? specs optionsFirst rest).map fun a => { a with operands := arg :: a.operands }

end Arguments
end SandboxProfile
