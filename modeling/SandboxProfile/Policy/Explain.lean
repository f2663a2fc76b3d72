import SandboxProfile.Policy.Compose

/-! Explanations: for every fragment that a composition considers, whether its
statements are in the document. -/
namespace SandboxProfile

/-- The part of a library that a fragment is considered for. -/
inductive Section where
  | posture
  | base
  | tier
  | role (name : String)
  deriving Repr, DecidableEq

def Section.label : Section → String
  | .posture => "posture"
  | .base => "base"
  | .tier => "tier"
  | .role name => s!"role:{name}"

structure ExplainRow where
  part : Section
  fragment : Fragment
  included : Bool
  deriving Repr

namespace Library

/-- Every fragment that a document was composed from, with its section. -/
def consideredSections (l : Library) (tier : Option Tier) (roles : List String) :
    List (Section × Fragment) :=
  (.posture, l.posture) :: l.base.map (Section.base, ·) ++
    ((tier.map l.tierFragments).getD []).map (Section.tier, ·) ++
    roles.flatMap fun role => ((l.addendum? role).getD []).map (Section.role role, ·)

def explainRows (l : Library) (d : Document) : List ExplainRow :=
  (l.consideredSections d.tier d.roles).map fun (part, f) =>
    ⟨part, f, d.fragmentIds.contains f.id⟩

end Library

namespace ExplainRow

def lines (row : ExplainRow) : Except PolicyFault (List String) := do
  let status := if row.included then "INCLUDE" else "skip"
  let guard ← row.fragment.guard.describe
  let description := if row.fragment.description == "" then []
    else ["      " ++ row.fragment.description]
  pure (["  " ++ Text.padRight 12 row.part.label ++ " " ++ Text.padRight 28 row.fragment.id ++
    s!" [{status}]", "      guard: " ++ guard] ++ description)

end ExplainRow

namespace Parameter

def explainLine (p : Parameter) : String :=
  let value := if p.isSet then (Setting.toValue p.setting).literal else "(unset)"
  "  " ++ Text.padRight 24 p.name ++ " " ++ Text.padRight 16 p.kind.name ++ " " ++ value

end Parameter

/-- The parameters of a store, sorted by name, and its primitives. -/
def Store.explain (s : Store) : String :=
  let rows := (s.parameters.mergeSort fun a b => decide (a.name ≤ b.name)).map
    Parameter.explainLine
  let primitives := match s.sortedPrimitives with
    | none => []
    | some [] => ["  primitives: (none)"]
    | some [""] => ["  primitives: (none)"]
    | some names => ["  primitives: " ++ Text.joinWith ", " names]
  Text.joinWith "\n" ("Parameters:" :: rows ++ primitives)

namespace Library

/-- The explanation of a document that the library was composed into. -/
def explainDocument (l : Library) (store : Store) (d : Document) : Except PolicyFault String := do
  let hash ← d.contentHash
  let roles := (Value.list (d.roles.map .text)).literal
  let head := s!"Library: {Text.quoted l.name}  (tier={tierText d.tier}, roles={roles}, " ++
    s!"hash={hash})"
  let rows ← (l.explainRows d).mapM ExplainRow.lines
  let summary := s!"{d.fragmentIds.length} fragment(s) included, " ++
    s!"{d.statements.length} statement(s) emitted"
  pure (Text.joinWith "\n" (head :: "" :: store.explain :: "" :: rows.flatten ++ ["", summary]))

/-- Composes and explains; a fault of the composition is the fault of the whole. -/
def explain (l : Library) (store : Store) (requested : Value) (roles : List String) :
    Traced Event (ComposeFault ⊕ PolicyFault) String := do
  let d ← (l.compose store requested roles).mapError .inl
  Traced.ofExcept ((l.explainDocument store d).mapError .inr)

end Library
end SandboxProfile
