import SandboxProfile.Number.Binary64

/-! Sums and products of binary64 numbers, rounded once. -/
namespace SandboxProfile.Number.Binary64

/-- The number nearest to a natural number times a power of two. -/
def ofScaled (negative : Bool) (m : Nat) (e : Int) : Binary64 :=
  if m == 0 then .finite negative 0 leastExponent
  else if e ≥ 0 then ofQuotient negative (m * Nat.pow 2 e.toNat) 1
  else ofQuotient negative m (Nat.pow 2 (-e).toNat)

def negate : Binary64 → Binary64
  | .nan => .nan
  | .infinite negative => .infinite (!negative)
  | .finite negative m e => .finite (!negative) m e

def signed (negative : Bool) (n : Nat) : Int := if negative then -(n : Int) else n

/-- The sum. Opposite numbers add up to the positive zero. -/
def add : Binary64 → Binary64 → Binary64
  | .nan, _ | _, .nan => .nan
  | .infinite a, .infinite b => if a == b then .infinite a else .nan
  | .infinite a, _ => .infinite a
  | _, .infinite b => .infinite b
  | .finite a m e, .finite b n f =>
    let least := min e f
    let total := signed a (m * Nat.pow 2 (e - least).toNat) + signed b (n * Nat.pow 2 (f - least).toNat)
    ofScaled (if total == 0 then a && b else total < 0) total.natAbs least

def mul : Binary64 → Binary64 → Binary64
  | .nan, _ | _, .nan => .nan
  | .infinite a, .infinite b => .infinite (a != b)
  | .infinite a, .finite b n _ | .finite b n _, .infinite a =>
    if n == 0 then .nan else .infinite (a != b)
  | .finite a m e, .finite b n f => ofScaled (a != b) (m * n) (e + f)

end SandboxProfile.Number.Binary64
