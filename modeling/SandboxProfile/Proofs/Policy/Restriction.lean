import SandboxProfile.Proofs.Policy.Section

/-! Restriction by tiers. A tier stands for itself and every more restrictive one, so what
is composed for a more restrictive tier, or for none, is what is composed for the tier
less one row in its middle. -/
namespace SandboxProfile

/-- The levels of a more restrictive choice come first. -/
theorem Tier.levels_isPrefix {t : Tier} {stricter : Option Tier}
    (restricts : ∀ u ∈ stricter, t.toNat < u.toNat) :
    Tier.levels stricter <+: Tier.levels (some t) := by
  cases stricter with
  | none => exact List.nil_prefix
  | some u =>
    have above := restricts u rfl
    revert above
    cases t <;> cases u <;> decide

namespace Library
variable {l : Library} {store : Store} {t : Tier} {stricter : Option Tier} {roles : List String}

/-- The row of a tier goes on where the row of a more restrictive choice ends. -/
theorem exists_sequence_eq (restricts : ∀ u ∈ stricter, t.toNat < u.toNat) :
    ∃ further, l.sequence (some t) [] = l.sequence stricter [] ++ further := by
  obtain ⟨levels, same⟩ := Tier.levels_isPrefix restricts
  refine ⟨levels.flatMap fun u => (l.tier? u).getD [], ?_⟩
  simp [sequence, following, ← same]

theorem sequence_sublist (restricts : ∀ u ∈ stricter, t.toNat < u.toNat) :
    (l.sequence stricter roles).Sublist (l.sequence (some t) roles) := by
  obtain ⟨further, same⟩ := exists_sequence_eq (l := l) restricts
  rw [sequence_eq stricter, sequence_eq (some t), same]
  exact (List.sublist_append_left _ further).append (.refl _)

theorem Composes.restrict (composes : l.Composes store (some t) roles)
    (restricts : ∀ u ∈ stricter, t.toNat < u.toNat)
    (declared : ∀ u ∈ stricter, (l.tier? u).isSome) : l.Composes store stricter roles where
  declared := declared
  known := composes.known
  resolves := composes.resolves.of_subperm (sequence_sublist restricts).subperm

/-- A document, and one that is the same but for what some fragments grant, which stands
in front of what the roles grant. -/
structure LessRow (l : Library) (store : Store) (shared further added : List Fragment)
    (d e : Document) : Prop where
  statements : d.statements =
    l.granted store shared ++ l.granted store further ++ l.granted store added
  remaining : e.statements = l.granted store shared ++ l.granted store added
  fragmentIds : d.fragmentIds = Fragment.includedIds store shared ++
    Fragment.includedIds store further ++ Fragment.includedIds store added
  remainingIds : e.fragmentIds = Fragment.includedIds store shared ++
    Fragment.includedIds store added

theorem LessRow.sublist {shared further added : List Fragment} {d e : Document}
    (less : l.LessRow store shared further added d e) : e.statements.Sublist d.statements := by
  rw [less.statements, less.remaining]
  exact (List.sublist_append_left _ _).append (.refl _)

theorem lessRow_assembled (store : Store) (roles : List String) {further : List Fragment}
    (same : l.sequence (some t) [] = l.sequence stricter [] ++ further) :
    l.LessRow store (l.sequence stricter []) further (l.addendaOf roles)
      (l.assembled store (some t) roles) (l.assembled store stricter roles) where
  statements := by rw [assembled_statements, same, granted_append]
  remaining := assembled_statements
  fragmentIds := by rw [assembled_fragmentIds, same, Fragment.includedIds_append]
  remainingIds := assembled_fragmentIds

/-- If a document is composed for a tier, one is composed for every more restrictive tier
that is declared and for none, and it is the same less one row: that of the levels from
the tier up to the more restrictive one. So every statement in it is granted at the tier
too, and in the same order. -/
theorem compose_restricted {requested asked : Value} {d : Document}
    (looser : selectTier requested = .ok (some t)) (other : selectTier asked = .ok stricter)
    (declared : ∀ u ∈ stricter, (l.tier? u).isSome)
    (restricts : ∀ u ∈ stricter, t.toNat < u.toNat)
    (composed : (l.compose store requested roles).result = .ok d) :
    ∃ (e : Document) (further : List Fragment),
      (l.compose store asked roles).result = .ok e ∧
      l.sequence (some t) [] = l.sequence stricter [] ++ further ∧
      l.LessRow store (l.sequence stricter []) further (l.addendaOf roles) d e ∧
      e.statements.Sublist d.statements := by
  obtain ⟨composes, rfl⟩ := (compose_eq_ok looser).mp composed
  obtain ⟨further, same⟩ := exists_sequence_eq (l := l) restricts
  have less := lessRow_assembled store roles same
  refine ⟨l.assembled store stricter roles, further, ?_, same, less, less.sublist⟩
  exact (compose_eq_ok other).mpr ⟨composes.restrict restricts declared, rfl⟩

theorem compose_restricted_layered :
    selectTier (.int 2) = .ok (some .level2) ∧ selectTier (.int 3) = .ok (some .level3) ∧
    (∀ u ∈ some Tier.level3, (layeredLibrary.tier? u).isSome) ∧
    (∀ u ∈ some Tier.level3, Tier.level2.toNat < u.toNat) ∧
    (layeredLibrary.compose emptyStore (.int 2) ["file"]).result =
      .ok (layeredLibrary.assembled emptyStore (some .level2) ["file"]) ∧
    ∃ (e : Document) (further : List Fragment),
      (layeredLibrary.compose emptyStore (.int 3) ["file"]).result = .ok e ∧
      layeredLibrary.sequence (some .level2) [] =
        layeredLibrary.sequence (some .level3) [] ++ further ∧
      layeredLibrary.LessRow emptyStore (layeredLibrary.sequence (some .level3) []) further
        (layeredLibrary.addendaOf ["file"])
        (layeredLibrary.assembled emptyStore (some .level2) ["file"]) e ∧
      e.statements.Sublist
        (layeredLibrary.assembled emptyStore (some .level2) ["file"]).statements := by
  have looser : selectTier (.int 2) = .ok (some .level2) := rfl
  have other : selectTier (.int 3) = .ok (some .level3) := rfl
  have declared : ∀ u ∈ some Tier.level3, (layeredLibrary.tier? u).isSome := by decide
  have restricts : ∀ u ∈ some Tier.level3, Tier.level2.toNat < u.toNat := by decide
  have composed : (layeredLibrary.compose emptyStore (.int 2) ["file"]).result =
      .ok (layeredLibrary.assembled emptyStore (some .level2) ["file"]) := rfl
  exact ⟨looser, other, declared, restricts, composed,
    compose_restricted looser other declared restricts composed⟩

end Library
end SandboxProfile
