import SandboxProfile.Value

/-! The kinds that a parameter is bound as, and the settings that it can have. -/
namespace SandboxProfile

inductive ParamKind where
  | bool
  | int
  | string
  | optionalString
  | path
  | optionalPath
  deriving Repr, DecidableEq

namespace ParamKind

def all : List ParamKind := [.bool, .int, .string, .optionalString, .path, .optionalPath]

def name : ParamKind → String
  | .bool => "bool"
  | .int => "int"
  | .string => "string"
  | .optionalString => "optional_string"
  | .path => "path"
  | .optionalPath => "optional_path"

def ofName? (s : String) : Option ParamKind := all.find? (·.name == s)

def isOptional : ParamKind → Bool
  | .optionalString | .optionalPath => true
  | _ => false

theorem ofName?_name (k : ParamKind) : ofName? k.name = some k := by
  cases k <;> decide

end ParamKind

/-- What a parameter that is set is set to. -/
inductive Setting where
  | flag (on : Bool)
  | number (i : Int)
  | text (s : String)
  deriving Repr, DecidableEq

/-- A setting as a value; an unset parameter has none. -/
def Setting.toValue : Option Setting → Value
  | none => .null
  | some (.flag b) => .bool b
  | some (.number i) => .int i
  | some (.text s) => .text s

structure Parameter where
  name : String
  kind : ParamKind
  setting : Option Setting
  deriving Repr, DecidableEq

def Parameter.isSet (p : Parameter) : Bool := p.setting.isSome

end SandboxProfile
