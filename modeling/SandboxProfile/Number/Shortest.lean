import SandboxProfile.Number.Binary64

/-! The shortest decimal text of a number. Of all decimal numbers that round to a
given number, those with the fewest digits are taken, and of these the nearest.
The text is positional from 0.0001 up to below 10^16 and scientific outside. -/
namespace SandboxProfile.Number.Binary64

/-- Digits and decimal exponent: the number is the digits times that power of ten. -/
structure Decimal where
  digits : Nat
  exponent : Int
  deriving Repr, DecidableEq

/-- A positive number as a quotient. -/
def quotient (m : Nat) (e : Int) : Nat × Nat :=
  if e ≥ 0 then (m * Nat.pow 2 e.toNat, 1) else (m, Nat.pow 2 (-e).toNat)

/-- The number in units of a power of ten: quotient, remainder and divisor. -/
def inUnits (num den : Nat) (unit : Int) : Nat × Nat × Nat :=
  let (n, d) := if unit ≥ 0 then (num, den * Nat.pow 10 unit.toNat) else (num * Nat.pow 10 (-unit).toNat, den)
  (n / d, n % d, d)

def digitCount (n : Nat) : Nat := (Nat.toDigits 10 n).length

/-- The place of the first significant digit. -/
def leadingPlace (num den : Nat) : Int :=
  let guess : Int := (digitCount num : Int) - (digitCount den : Int)
  if (inUnits num den guess).1 == 0 then guess - 1 else guess

/-- The nearer of the two neighbours on a decimal grid that read back as the number. -/
def onGrid? (m : Nat) (e : Int) (num den : Nat) (unit : Int) : Option Decimal :=
  let readsBack (k : Nat) : Bool := decide (ofDecimal false k unit = .finite false m e)
  let (q, r, d) := inUnits num den unit
  match readsBack q, readsBack (q + 1) with
  | true, true => some ⟨if 2 * r ≤ d then q else q + 1, unit⟩
  | true, false => some ⟨q, unit⟩
  | false, true => some ⟨q + 1, unit⟩
  | false, false => none

def shortestDecimal (m : Nat) (e : Int) : Decimal :=
  let (num, den) := quotient m e
  let place := leadingPlace num den
  let found := (List.range 17).findSome? fun (k : Nat) => onGrid? m e num den (place - (k : Int))
  found.getD ⟨num / den, 0⟩

/-- Significant digits without trailing zeros, and the place of the first. -/
def significant (d : Decimal) : List Char × Int :=
  let all := Nat.toDigits 10 d.digits
  let kept := (all.reverse.dropWhile (· = '0')).reverse
  (kept, d.exponent + (all.length : Int) - 1)

def twoDigits (n : Nat) : String := if n < 10 then "0" ++ toString n else toString n

def layout (digits : List Char) (place : Int) : String :=
  if -4 ≤ place && place < 16 then
    if place < 0 then
      "0." ++ String.ofList (List.replicate (-place - 1).toNat '0' ++ digits)
    else
      let whole := place.toNat + 1
      let padded := digits ++ List.replicate (whole - digits.length) '0'
      let fraction := padded.drop whole
      String.ofList (padded.take whole) ++ "." ++
        (if fraction.isEmpty then "0" else String.ofList fraction)
  else
    let mantissa := match digits with
      | [] => "0"
      | [d] => String.ofList [d]
      | d :: rest => String.ofList (d :: '.' :: rest)
    let sign := if place < 0 then "-" else "+"
    mantissa ++ "e" ++ sign ++ twoDigits place.natAbs

def toText : Binary64 → String
  | .nan => "nan"
  | .infinite negative => if negative then "-inf" else "inf"
  | .finite negative m e =>
    let sign := if negative then "-" else ""
    if m == 0 then sign ++ "0.0"
    else
      let (digits, place) := significant (shortestDecimal m e)
      sign ++ layout digits place

end SandboxProfile.Number.Binary64
