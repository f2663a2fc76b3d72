import SandboxProfile.Number.Binary64
import SandboxProfile.Text.Blank
import SandboxProfile.Text.Case
import SandboxProfile.Text.Integer

/-! Reading floating point numbers from decimal text. -/
namespace SandboxProfile.Number.Binary64
open SandboxProfile.Text

/-- The value of a numeral whose parts are known to be digits. -/
def ofParts (negative : Bool) (whole fraction : List Nat) (exponent : Int) : Binary64 :=
  ofDecimal negative (ofDigits (whole ++ fraction)) (exponent - fraction.length)

/-- Digits, possibly none, with single underscores between them. -/
def optionalDigits? (cs : List Char) : Option (List Nat) :=
  if cs.isEmpty then some [] else separatedDigits? cs

def readExponent? (cs : List Char) : Option Int :=
  let (negative, body) := takeSign cs
  (separatedDigits? body).map fun digits => applySign negative (ofDigits digits)

/-- Reads a number in its widest form: white space around it, a sign, the words for
infinity and for no number, and underscores between digits. -/
def ofText? (s : String) : Option Binary64 :=
  let (negative, body) := takeSign (trimList isWhiteSpace s.toList)
  let word := lower (String.ofList body)
  if word == "inf" || word == "infinity" then some (.infinite negative)
  else if word == "nan" then some .nan
  else
    let isMark (c : Char) : Bool := c = 'e' || c = 'E'
    let mantissa := body.takeWhile (!isMark ·)
    let exponent? := match body.dropWhile (!isMark ·) with
      | [] => some 0
      | _ :: rest => readExponent? rest
    let whole := mantissa.takeWhile (· ≠ '.')
    let fraction := (mantissa.dropWhile (· ≠ '.')).drop 1
    if whole.isEmpty && fraction.isEmpty then none
    else do
      let exponent ← exponent?
      let w ← optionalDigits? whole
      let f ← optionalDigits? fraction
      pure (ofParts negative w f exponent)

end SandboxProfile.Number.Binary64
