import SandboxProfile.Parameter.Kind
import SandboxProfile.Text.Integer

/-! The causes for which a parameter is refused, missing or unfit for its use. -/
namespace SandboxProfile
open Text

inductive ParameterFault where
  | cannotBeUnset (name : String) (kind : ParamKind)
  | notBoolean (name : String) (raw : Value)
  | notInteger (name : String) (raw : Value)
  | notString (name : String) (raw : Value)
  | nulByte (name : String)
  | notAbsolute (name path : String)
  | doubleQuote (name : String)
  | kindConflict (name : String) (expected given : ParamKind)
  | notBound (name : String)
  | alreadyBound (name : String)
  | unknownName (name : String)
  | frozen (name : String)
  | primitivesFrozen
  | primitivesUnknown (primitive : String)
  | notNumeric (name : String) (setting : Option Setting)
  | notToggle (name : String) (setting : Option Setting)
  | flagInTemplate (name : String)
  /-- A numeral has more digits than numerals may have. -/
  | tooManyDigits (digits : Nat)
  /-- An integer has more digits than are written. -/
  | unwritable
  /-- A kind is named that does not exist. -/
  | unknownKind (kind : String)
  deriving Repr, BEq

namespace ParameterFault

private def about (name rest : String) : String := "Parameter " ++ quoted name ++ " " ++ rest

def message : ParameterFault → String
  | .cannotBeUnset name kind => about name s!"({kind.name}) cannot be unset"
  | .notBoolean name raw => about name s!"expects a boolean, got {raw.literal}"
  | .notInteger name raw => about name s!"expects an integer, got {raw.literal}"
  | .notString name raw => about name s!"expects a string, got {raw.literal}"
  | .nulByte name => about name "contains a NUL byte"
  | .notAbsolute name path => about name s!"must be an absolute path, got {quoted path}"
  | .doubleQuote name => about name "must not contain a double quote"
  | .kindConflict name expected given =>
    about name s!"must be bound as {expected.name}, not {given.name}"
  | .notBound name => about name "is not bound"
  | .alreadyBound name => about name "is already bound"
  | .unknownName name => s!"Unrecognized parameter name {quoted name}"
  | .frozen name => s!"Cannot bind {quoted name}: parameter store is frozen"
  | .primitivesFrozen => "Cannot change primitives: parameter store is frozen"
  | .primitivesUnknown primitive =>
    s!"Cannot test for primitive {quoted primitive}: platform primitive set is not bound"
  | .notNumeric name setting =>
    s!"Guard compares {quoted name} numerically but its value is " ++
      (Setting.toValue setting).literal
  | .notToggle name setting =>
    s!"Guard tests toggle {quoted name} but its value is " ++ (Setting.toValue setting).literal
  | .flagInTemplate name =>
    s!"Boolean parameter {quoted name} cannot be substituted into a template"
  | .tooManyDigits digits => tooManyDigitsMessage digits
  | .unwritable => unwritableMessage
  | .unknownKind kind => s!"{quoted kind} is not a valid ParamKind"

/-- The parameter that a fault is about, as far as it is about one. -/
def name? : ParameterFault → Option String
  | .cannotBeUnset name _ | .notBoolean name _ | .notInteger name _ | .notString name _
  | .nulByte name | .notAbsolute name _ | .doubleQuote name | .kindConflict name _ _
  | .notBound name | .alreadyBound name | .unknownName name | .frozen name
  | .notNumeric name _ | .notToggle name _ | .flagInTemplate name => some name
  | .primitivesFrozen | .primitivesUnknown _ | .tooManyDigits _ | .unwritable | .unknownKind _ =>
    none

/-- Whether a fault is one of the parameter itself. The others are faults of the
text of an integer, read or written, and of the name of a kind. -/
def concernsParameter : ParameterFault → Bool
  | .tooManyDigits _ | .unwritable | .unknownKind _ => false
  | _ => true

end ParameterFault
end SandboxProfile
