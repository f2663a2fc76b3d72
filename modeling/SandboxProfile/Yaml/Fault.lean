import SandboxProfile.Moment
import SandboxProfile.Text.Integer
import SandboxProfile.Text.Quoted

/-! The causes for which a document cannot be read. Most are faults of its form. The
others are faults of scalars whose form is right but which have no value. -/
namespace SandboxProfile.Yaml
open SandboxProfile.Text

inductive Fault where
  | malformed
  /-- An escape names a number that is no code point; past 32 bits it is not even looked up. -/
  | noCodePoint (wide : Bool)
  /-- An escape names one half of a surrogate pair, which is no character of a text. -/
  | surrogate
  | notInteger (base : Nat) (text : String)
  | notNumber (text : String)
  | tooManyDigits (digits : Nat)
  | emptyNumber
  | notTruthValue (text : String)
  | notMoment
  | noSuchMoment (fault : MomentFault)
  deriving Repr, DecidableEq

def Fault.message : Fault → String
  | .malformed => "YAML syntax error"
  | .noCodePoint false => "chr() arg not in range(0x110000)"
  | .noCodePoint true => "Python int too large to convert to C int"
  | .surrogate => "surrogates not allowed"
  | .notInteger base text =>
    s!"invalid literal for int() with base {base}: " ++
      String.ofList ((quoted text).toList.take 200)
  | .notNumber text => s!"could not convert string to float: {quoted text}"
  | .tooManyDigits digits => tooManyDigitsMessage digits
  | .emptyNumber => "string index out of range"
  | .notTruthValue text => quoted text
  | .notMoment => "not a point in time"
  | .noSuchMoment fault => fault.message

end SandboxProfile.Yaml
