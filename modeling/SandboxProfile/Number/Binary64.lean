/-! Floating point numbers in binary64. A finite number is a natural significand
times a power of two; the significand has 53 bits unless the exponent is the
least one, so equal numbers have equal representations. Decimal numbers are
rounded to nearest, ties to an even significand. -/
namespace SandboxProfile.Number

inductive Binary64 where
  | nan
  | infinite (negative : Bool)
  | finite (negative : Bool) (significand : Nat) (exponent : Int)
  deriving Repr, DecidableEq

namespace Binary64

def leastExponent : Int := -1074
def greatestExponent : Int := 971

/-- The least significand of a number that is not too small for 53 bits. -/
def hiddenBit : Nat := 0x10000000000000

/-- A quotient rounded to nearest, a half to the even neighbour. -/
def roundDiv (num den : Nat) : Nat :=
  let q := num / den
  let r := num % den
  if 2 * r > den || (2 * r == den && q % 2 == 1) then q + 1 else q

/-- The number nearest to a positive quotient. -/
def ofQuotient (negative : Bool) (num den : Nat) : Binary64 :=
  let guess : Int := (Nat.log2 num : Int) - (Nat.log2 den : Int) - 52
  let scale (e : Int) : Nat × Nat :=
    if e ≥ 0 then (num, den * Nat.pow 2 e.toNat) else (num * Nat.pow 2 (-e).toNat, den)
  -- the quotient of the two logarithms may be one too large
  let fits (e : Int) : Bool := let (n, d) := scale e; d * hiddenBit ≤ n
  let e := if fits guess then guess else guess - 1
  let e := max e leastExponent
  let (n, d) := scale e
  let m := roundDiv n d
  let (m, e) := if m == 2 * hiddenBit then (hiddenBit, e + 1) else (m, e)
  if e > greatestExponent then .infinite negative else .finite negative m e

/-- The number nearest to an integer times a power of ten. -/
def ofDecimal (negative : Bool) (digits : Nat) (exponent : Int) : Binary64 :=
  let magnitude : Int := (Nat.log2 digits : Int) * 30103 / 100000 + exponent
  if digits == 0 || magnitude < -400 then .finite negative 0 leastExponent
  else if magnitude > 400 then .infinite negative
  else if exponent ≥ 0 then ofQuotient negative (digits * Nat.pow 10 exponent.toNat) 1
  else ofQuotient negative digits (Nat.pow 10 (-exponent).toNat)

def ofInt (i : Int) : Binary64 := ofDecimal (i < 0) i.natAbs 0

/-- The integer that a number is, unless it has a fraction or is not finite. -/
def toInt? : Binary64 → Option Int
  | .finite negative m e =>
    let sign (n : Nat) : Int := if negative then -(n : Int) else n
    if e ≥ 0 then some (sign (m * Nat.pow 2 e.toNat))
    else if m % Nat.pow 2 (-e).toNat == 0 then some (sign (m / Nat.pow 2 (-e).toNat))
    else none
  | _ => none

def isFinite : Binary64 → Bool
  | .finite .. => true
  | _ => false

end Binary64
end SandboxProfile.Number
