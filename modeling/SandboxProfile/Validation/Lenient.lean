import SandboxProfile.Policy.Fragment
import SandboxProfile.Text.Blank
import SandboxProfile.Text.Integer
import SandboxProfile.Validation.Complaint

/-! Lenient reading of plain values. Bytes stand for the text that they encode, whole
numbers for integers, and some texts for numbers and for truth values. -/
namespace SandboxProfile.Lenient
open Text

def utf8? (bs : List UInt8) : Option String := String.fromUTF8? ⟨bs.toArray⟩

def text : Value → Except Misfit String
  | .text s => .ok s
  | .bytes bs =>
    match utf8? bs with
    | some s => .ok s
    | none => .error .textNotUnicode
  | _ => .error .notText

/-- The numeral without the zeros in front of it, among which underscores may stand. One
zero is kept where no other digit follows. -/
def withoutLeadingZeros? : List Char → Option (List Char)
  | [] => none
  | c :: cs =>
    if c = '0' then
      let isFiller (c : Char) : Bool := c = '0' || c = '_'
      let fillers := cs.takeWhile isFiller
      let last := (c :: fillers).getLast?.getD c
      match cs.dropWhile isFiller with
      | [] => some [last]
      | '.' :: rest => some (last :: '.' :: rest)
      | d :: rest => if (asciiDigit? d).isSome then some (d :: rest) else none
    else if (asciiDigit? c).isSome then some (c :: cs)
    else none

/-- A point with nothing but zeros behind it is dropped. -/
def withoutZeroFraction (cs : List Char) : List Char :=
  match cs.dropWhile (· ≠ '.') with
  | _ :: fraction => if fraction.all (· = '0') then cs.takeWhile (· ≠ '.') else cs
  | [] => cs

def asciiDigits? (cs : List Char) : Option (List Nat) :=
  if cs.all fun c => c = '_' || (asciiDigit? c).isSome then separatedDigits? cs else none

/-- The integer that a text stands for. -/
def integerOfText? (s : String) : Option Int := do
  let (negative, body) := takeSign (trimList isWhiteSpace s.toList)
  let body ← withoutLeadingZeros? body
  let digits ← asciiDigits? (withoutZeroFraction body)
  if digits.length > digitLimit then none else some (applySign negative (ofDigits digits))

def trueWords : List String := ["1", "on", "t", "true", "y", "yes"]

def falseWords : List String := ["0", "off", "f", "false", "n", "no"]

/-- The truth value that a text stands for, in either case of letters. -/
def truthOfText? (s : String) : Option Bool :=
  let word := String.ofList (s.toList.map Char.toLower)
  if trueWords.contains word then some true
  else if falseWords.contains word then some false
  else none

/-- Read as text where that is possible, as a number elsewhere. -/
def integer? (v : Value) : Option Int :=
  match text v with
  | .ok s => integerOfText? s
  | .error _ => v.numeral?

def tier (v : Value) : Except Misfit Tier :=
  match (integer? v).bind Tier.ofInt? with
  | some t => .ok t
  | none => .error .notTier

end SandboxProfile.Lenient
