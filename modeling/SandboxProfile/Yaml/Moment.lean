import SandboxProfile.Yaml.Fault

/-! Dates and times of day as documents write them. -/
namespace SandboxProfile.Yaml
open SandboxProfile.Text

namespace Moment

/-- Between `least` and `most` digits, as many as there are. -/
def digits? (least most : Nat) (cs : List Char) : Option (List Nat × List Char) :=
  let found := ((cs.take most).takeWhile fun c => (asciiDigit? c).isSome).filterMap asciiDigit?
  if found.length < least then none else some (found, cs.drop found.length)

def number? (least most : Nat) (cs : List Char) : Option (Nat × List Char) :=
  (digits? least most cs).map fun (ds, rest) => (ofDigits ds, rest)

def mark? (c : Char) : List Char → Option (List Char)
  | d :: rest => if c = d then some rest else none
  | [] => none

/-- The first six digits of a fraction of a second count. -/
def microseconds (ds : List Nat) : Nat :=
  let six := ds.take 6
  ofDigits (six ++ List.replicate (6 - six.length) 0)

def isSpace (c : Char) : Bool := c = ' ' || c = '\t'

def offset? (cs : List Char) : Option (Option Int) :=
  match cs.dropWhile isSpace with
  | [] => if cs.isEmpty then some none else none
  | ['Z'] => some (some 0)
  | sign :: rest => do
    if sign ≠ '+' && sign ≠ '-' then none
    let (hours, rest) ← number? 1 2 rest
    let minutes ← match rest with
      | [] => some 0
      | _ => do
        let (minutes, rest) ← mark? ':' rest >>= number? 2 2
        if rest.isEmpty then some minutes else none
    some (some (applySign (sign = '-') (3600 * hours + 60 * minutes)))

def clock? (cs : List Char) : Option Clock := do
  let (hour, rest) ← number? 1 2 cs
  let (minute, rest) ← mark? ':' rest >>= number? 2 2
  let (second, rest) ← mark? ':' rest >>= number? 2 2
  let (fraction, rest) ← match rest with
    | '.' :: rest => digits? 0 rest.length rest
    | rest => some ([], rest)
  let offset ← offset? rest
  some ⟨hour, minute, second, microseconds fraction, offset⟩

/-- Reads a moment. A date alone may be required to have two digits for month and day. -/
def ofText? (fullDate : Bool) (s : String) : Option Moment := do
  let (year, rest) ← number? 4 4 s.toList
  let (monthDigits, rest) ← mark? '-' rest >>= digits? 1 2
  let (dayDigits, rest) ← mark? '-' rest >>= digits? 1 2
  let date (clock : Option Clock) : Moment := ⟨year, ofDigits monthDigits, ofDigits dayDigits, clock⟩
  match rest with
  | [] =>
    if fullDate && (monthDigits.length ≠ 2 || dayDigits.length ≠ 2) then none else some (date none)
  | c :: tail =>
    if c = 'T' || c = 't' then (clock? tail).map (date ∘ some)
    else if isSpace c then (clock? (tail.dropWhile isSpace)).map (date ∘ some)
    else none

end Moment
end SandboxProfile.Yaml
