import SandboxProfile.Policy.Guard
import SandboxProfile.Policy.Statement

/-! Fragments: named and guarded groups of statements. Inside a fragment, blocks
with guards of their own choose between two branches. -/
namespace SandboxProfile

inductive Node where
  | leaf (statement : Statement)
  | guarded (guard : Guard) (body : List Node) (otherwise : List Node)
  /-- A value in the place of a node. -/
  | stray (value : Value)
  deriving Repr, BEq, Inhabited

structure Fragment where
  id : String
  body : List Node
  guard : Guard
  description : String
  deriving Repr, BEq

/-- The tiers exclude each other; a higher one restricts more. -/
inductive Tier where
  | level1
  | level2
  | level3
  deriving Repr, DecidableEq

namespace Tier

def all : List Tier := [.level1, .level2, .level3]

def toNat : Tier → Nat
  | .level1 => 1
  | .level2 => 2
  | .level3 => 3

def ofInt? (i : Int) : Option Tier := all.find? fun t => (t.toNat : Int) == i

def ofInt (i : Int) : Except ModelFault Tier :=
  match ofInt? i with
  | some t => .ok t
  | none => .error (.unknownTier (toString i))

/-- The tier that a value equals. A whole number equals its tier in either form,
a truth value equals none. -/
def ofValue? : Value → Option Tier
  | .bool _ => none
  | v => v.numeral?.bind ofInt?

end Tier

/-- Renames of operations that hold while the guard does. -/
structure AliasSet where
  guard : Guard
  renames : List (String × String)
  deriving Repr, BEq

end SandboxProfile
