import SandboxProfile.Proofs.Policy.Composition
import Mathlib.Data.List.Nodup
import Mathlib.Data.List.Pairwise
import Mathlib.Data.List.Perm.Subperm

/-! Rows of fragments. A composition is one row for its tier and behind it one row for
its roles, and each row grants its statements wherever it stands. What a row loses or
gains by a change of the order or by the loss of some fragments is read off the row. -/
namespace SandboxProfile

theorem mem_of_lookup {α β : Type} [BEq α] [LawfulBEq α] {pairs : List (α × β)} {key : α}
    {value : β} (found : pairs.lookup key = some value) : (key, value) ∈ pairs := by
  obtain ⟨front, back, rfl, -⟩ := List.lookup_eq_some_iff.mp found
  exact List.mem_append_right front List.mem_cons_self

namespace Fragment

/-- The ids of the fragments of a row that get into a document. -/
def includedIds (store : Store) (fs : List Fragment) : List String :=
  (fs.filter fun f => f.guard.holds store).map (·.id)

@[simp] theorem includedIds_append (store : Store) (front back : List Fragment) :
    includedIds store (front ++ back) = includedIds store front ++ includedIds store back := by
  simp [includedIds]

end Fragment

namespace Library
variable {l : Library} {store : Store} {tier : Option Tier} {roles : List String}

/-- The addendum of a role; a role that is not known has none. -/
def addendum (l : Library) (role : String) : List Fragment := (l.addendum? role).getD []

/-- The addenda of a list of roles, one behind the other. -/
def addendaOf (l : Library) (roles : List String) : List Fragment := roles.flatMap l.addendum

@[simp] theorem addendaOf_append (front back : List String) :
    l.addendaOf (front ++ back) = l.addendaOf front ++ l.addendaOf back :=
  List.flatMap_append

theorem following_eq : l.following tier roles = l.following tier [] ++ l.addendaOf roles := by
  rw [following, following, List.flatMap_nil, List.append_nil]
  rfl

/-- The roles stand behind everything else. -/
theorem sequence_eq (tier : Option Tier) (roles : List String) :
    l.sequence tier roles = l.sequence tier [] ++ l.addendaOf roles := by
  rw [sequence, following_eq, ← List.cons_append, sequence]

theorem mem_addenda_of_mem_addendum {role : String} {f : Fragment} (member : f ∈ l.addendum role) :
    ∃ fs, (role, fs) ∈ l.addenda ∧ f ∈ fs := by
  unfold addendum at member
  cases declared : l.addendum? role with
  | none => rw [declared] at member; contradiction
  | some fs =>
    rw [declared] at member
    exact ⟨fs, mem_of_lookup declared, member⟩

/-- A composition takes its fragments from the library. -/
theorem mem_fragments_of_mem_sequence {tier : Option Tier} {roles : List String} {f : Fragment}
    (member : f ∈ l.sequence tier roles) : f ∈ l.fragments := by
  simp only [sequence, following, List.mem_cons, List.mem_append, List.mem_flatMap] at member
  simp only [Sections.fragments, List.mem_cons, List.mem_append, List.mem_flatMap]
  rcases member with posture | (base | ⟨level, -, member⟩) | ⟨role, -, member⟩
  · exact .inl (.inl (.inl posture))
  · exact .inl (.inl (.inr base))
  · exact .inl (.inr ⟨level, by cases level <;> decide, member⟩)
  · obtain ⟨fs, declared, member⟩ := mem_addenda_of_mem_addendum member
    exact .inr ⟨(role, fs), declared, member⟩

/-- The statements that a row of fragments adds to a document. -/
def granted (l : Library) (store : Store) (fs : List Fragment) : List Statement :=
  (fs.flatMap (Fragment.contribution store)).map
    (Statement.rename (pairsInForce store l.aliases).reverse)

@[simp] theorem granted_append (front back : List Fragment) :
    l.granted store (front ++ back) = l.granted store front ++ l.granted store back := by
  simp [granted]

theorem granted_addendaOf :
    l.granted store (l.addendaOf roles) =
      roles.flatMap fun role => l.granted store (l.addendum role) := by
  simp [granted, addendaOf, List.flatMap_assoc, List.map_flatMap]

theorem assembled_statements :
    (l.assembled store tier roles).statements =
      l.granted store (l.sequence tier []) ++ l.granted store (l.addendaOf roles) := by
  rw [← granted_append, ← sequence_eq]
  rfl

theorem assembled_fragmentIds :
    (l.assembled store tier roles).fragmentIds =
      Fragment.includedIds store (l.sequence tier []) ++
        Fragment.includedIds store (l.addendaOf roles) := by
  rw [← Fragment.includedIds_append, ← sequence_eq]
  rfl

/-- Some of the fragments of a composition, in any order, are fine if all of them are. -/
theorem Resolves.of_subperm {other : Option Tier} {others : List String}
    (resolves : l.Resolves store tier roles)
    (fewer : List.Subperm (l.sequence other others) (l.sequence tier roles)) :
    l.Resolves store other others where
  fragments f member := resolves.fragments f (fewer.subset member)
  distinct := by
    obtain ⟨row, reordered, sublist⟩ := fewer
    exact (reordered.map _).nodup_iff.mp (resolves.distinct.sublist (sublist.map _))
  posture := resolves.posture
  aliases := resolves.aliases

/-- A composition that gives a document: its tier is declared, its roles are known, and
all of it resolves. -/
structure Composes (l : Library) (store : Store) (tier : Option Tier) (roles : List String) :
    Prop where
  declared : ∀ t ∈ tier, (l.tier? t).isSome
  known : ∀ r ∈ roles, (l.addendum? r).isSome
  resolves : l.Resolves store tier roles

theorem compose_eq_ok {requested : Value} {d : Document} (asked : selectTier requested = .ok tier) :
    (l.compose store requested roles).result = .ok d ↔
      l.Composes store tier roles ∧ l.assembled store tier roles = d := by
  rw [compose_eq_ok_iff]
  constructor
  · rintro ⟨other, same, declared, known, resolves, assembled⟩
    obtain rfl := Except.ok.inj (asked.symm.trans same)
    exact ⟨⟨declared, known, resolves⟩, assembled⟩
  · rintro ⟨⟨declared, known, resolves⟩, assembled⟩
    exact ⟨tier, asked, declared, known, resolves, assembled⟩

/-- No fragment is in the addenda of two roles, not even by its id. -/
theorem role_eq_of_shared_id {role other : String} {f g : Fragment} (first : f ∈ l.addendum role)
    (second : g ∈ l.addendum other) (same : f.id = g.id) : role = other := by
  obtain ⟨fs, declared, hf⟩ := mem_addenda_of_mem_addendum first
  obtain ⟨gs, alsoDeclared, hg⟩ := mem_addenda_of_mem_addendum second
  let ids (entry : String × List Fragment) : List String := entry.2.map (·.id)
  have distinct : (l.addenda.flatMap ids).Nodup := by
    have all := l.ids_nodup
    rw [Sections.fragments, List.map_append, List.map_flatMap] at all
    exact (List.nodup_append.mp all).2.1
  have symmetric : Std.Symm (Function.onFun List.Disjoint ids) := ⟨fun _ _ => List.disjoint_symm⟩
  by_contra different
  have apart : (ids (role, fs)).Disjoint (ids (other, gs)) :=
    (List.nodup_flatMap.mp distinct).2.forall declared alsoDeclared fun equal =>
      different (Prod.mk.inj equal).1
  exact apart (List.mem_map.mpr ⟨f, hf, rfl⟩) (List.mem_map.mpr ⟨g, hg, same.symm⟩)

end Library
end SandboxProfile
