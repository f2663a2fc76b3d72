import SandboxProfile.Parameter.Fault
import SandboxProfile.Text.Case

/-! Coercion: the settings that a kind admits, and how a raw value becomes one of
them. Optional kinds read nothing and the empty text as unset. -/
namespace SandboxProfile
open Text

def isAbsolutePath (s : String) : Bool := s.toList.head? == some '/'

def hasNul (s : String) : Bool := s.toList.contains '\x00'

def hasDoubleQuote (s : String) : Bool := s.toList.contains '"'

namespace ParamKind

/-- The settings that a parameter of a kind can have. -/
def admits : ParamKind → Option Setting → Bool
  | .bool, some (.flag _) => true
  | .int, some (.number _) => true
  | .string, some (.text s) => !hasNul s
  | .path, some (.text s) => !hasNul s && isAbsolutePath s && !hasDoubleQuote s
  | .optionalString, none => true
  | .optionalString, some (.text s) => s ≠ "" && !hasNul s
  | .optionalPath, none => true
  | .optionalPath, some (.text s) => !hasNul s && isAbsolutePath s && !hasDoubleQuote s
  | _, _ => false

end ParamKind

def coerceFlag (name : String) (raw : Value) : Except ParameterFault Bool :=
  match raw with
  | .bool b => .ok b
  | .text s =>
    if upper s == "TRUE" then .ok true
    else if upper s == "FALSE" then .ok false
    else .error (.notBoolean name raw)
  | _ => .error (.notBoolean name raw)

def coerceNumber (name : String) (raw : Value) : Except ParameterFault Int :=
  match raw with
  | .int i => .ok i
  | .text s =>
    match readPlainInteger s with
    | .ok i => .ok i
    | .error (.tooManyDigits n) => .error (.tooManyDigits n)
    | .error .notInteger => .error (.notInteger name raw)
  | _ => .error (.notInteger name raw)

def coerceText (name : String) (raw : Value) : Except ParameterFault String :=
  match raw with
  | .text s => if hasNul s then .error (.nulByte name) else .ok s
  | _ => .error (.notString name raw)

def coercePath (name : String) (raw : Value) : Except ParameterFault String := do
  let s ← coerceText name (match raw with
    | .path p => .text p
    | v => v)
  if !isAbsolutePath s then .error (.notAbsolute name s)
  else if hasDoubleQuote s then .error (.doubleQuote name)
  else .ok s

/-- Whether a raw value leaves an optional parameter unset. -/
def readsUnset : Value → Bool
  | .null => true
  | .text s => s == ""
  | _ => false

def coerce (name : String) (kind : ParamKind) (raw : Value) :
    Except ParameterFault (Option Setting) :=
  if kind.isOptional && readsUnset raw then .ok none
  else if raw matches .null then .error (.cannotBeUnset name kind)
  else
    match kind with
    | .bool => (coerceFlag name raw).map fun b => some (.flag b)
    | .int => (coerceNumber name raw).map fun i => some (.number i)
    | .path | .optionalPath => (coercePath name raw).map fun s => some (.text s)
    | .string | .optionalString => (coerceText name raw).map fun s => some (.text s)

end SandboxProfile
