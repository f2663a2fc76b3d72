import SandboxProfile.Policy.Compose
import SandboxProfile.Proofs.Outcome
import SandboxProfile.Proofs.Policy.Repetition
import SandboxProfile.Proofs.Table
import Mathlib.Data.List.Sort

/-! The ids of a library. A library is made of sections whose fragments have distinct ids, and of no
others, so that an id stands for one fragment. The tiers are taken by their levels, whatever the
order of their declarations. -/
namespace SandboxProfile
variable {s declared : Sections} {f : Fragment} {id : String} {ids seen : List String}
  {tiers : List (Tier × List Fragment)}

/-! ### Ids that repeat others -/

/-- The first text in a row that repeats one in front of it. -/
def FirstRepeats (ids : List String) (id : String) : Prop :=
  ∃ front back, ids = front ++ id :: back ∧ front.Nodup ∧ id ∈ front

/-- A row of distinct texts is passed over, and each of them is known behind it. -/
theorem firstRepeated_behind {front : List String} (distinct : front.Nodup)
    (fresh : ∀ other ∈ front, other ∉ seen) (back : List String) :
    firstRepeated seen (front ++ back) = firstRepeated (front.reverse ++ seen) back := by
  induction front generalizing seen with
  | nil => rfl
  | cons first front ih =>
    obtain ⟨apart, distinct⟩ := List.nodup_cons.mp distinct
    obtain ⟨unseen, others⟩ := List.forall_mem_cons.mp fresh
    have later : ∀ other ∈ front, other ∉ first :: seen := by
      intro other member
      exact List.not_mem_cons_of_ne_of_not_mem (fun same => apart (same ▸ member))
        (others other member)
    rw [List.cons_append, firstRepeated, if_neg (mt List.contains_iff_mem.mp unseen),
      ih distinct later, List.reverse_cons, List.append_assoc]
    rfl

/-- By induction on the row. What was seen before it counts as standing in front. -/
theorem exists_of_firstRepeated (found : firstRepeated seen ids = some id) :
    ∃ front back, ids = front ++ id :: back ∧ (front.Nodup ∧ ∀ other ∈ front, other ∉ seen) ∧
      (id ∈ front ∨ id ∈ seen) := by
  induction ids generalizing seen with
  | nil => contradiction
  | cons first rest ih =>
    rw [firstRepeated] at found
    split at found
    · next again =>
      obtain rfl := Option.some.inj found
      exact ⟨[], rest, rfl, ⟨List.nodup_nil, List.forall_mem_nil _⟩,
        .inr (List.contains_iff_mem.mp again)⟩
    · next unseen =>
      obtain ⟨front, back, rfl, ⟨distinct, fresh⟩, repeats⟩ := ih found
      refine ⟨first :: front, back, rfl, ⟨?_, ?_⟩, ?_⟩
      · exact List.nodup_cons.mpr ⟨fun member => fresh first member List.mem_cons_self, distinct⟩
      · refine List.forall_mem_cons.mpr ⟨mt List.contains_iff_mem.mpr unseen, ?_⟩
        intro other member before
        exact fresh other member (List.mem_cons_of_mem first before)
      · rw [List.mem_cons] at repeats ⊢
        tauto

theorem firstRepeated_iff : firstRepeated [] ids = some id ↔ FirstRepeats ids id := by
  constructor
  · intro found
    obtain ⟨front, back, row, ⟨distinct, -⟩, repeats⟩ := exists_of_firstRepeated found
    exact ⟨front, back, row, distinct, repeats.resolve_right List.not_mem_nil⟩
  · rintro ⟨front, back, rfl, distinct, repeats⟩
    have known : (front.reverse ++ []).contains id = true := by simpa using repeats
    rw [firstRepeated_behind distinct (fun _ _ => List.not_mem_nil), firstRepeated, if_pos known]

/-! ### Sections -/

namespace Sections

/-- Each tier and each role is declared at most once. -/
structure DeclaresOnce (s : Sections) : Prop where
  tiers : (s.tiers.map (·.1)).Nodup
  roles : (s.addenda.map (·.1)).Nodup

/-- The tiers in the order of their levels. -/
def sortedTiers (s : Sections) : List (Tier × List Fragment) :=
  s.tiers.mergeSort fun a b => decide (a.1.toNat ≤ b.1.toNat)

/-- The fragments one section after the other: the posture, the base, the tiers by ascending level
and the addenda. -/
def inOrder (s : Sections) : List Fragment :=
  s.posture :: s.base ++ s.sortedTiers.flatMap (·.2) ++ s.addenda.flatMap (·.2)

/-- A fragment stands in a section. -/
inductive Declares (s : Sections) : Fragment → Prop
  | posture : Declares s s.posture
  | base {f : Fragment} : f ∈ s.base → Declares s f
  | tier {t : Tier} {fs : List Fragment} {f : Fragment} :
      (t, fs) ∈ s.tiers → f ∈ fs → Declares s f
  | addendum {role : String} {fs : List Fragment} {f : Fragment} :
      (role, fs) ∈ s.addenda → f ∈ fs → Declares s f

theorem declaresOnce_normalize (s : Sections) : s.normalize.DeclaresOnce :=
  ⟨Table.nodup_ofPairs s.tiers, Table.nodup_ofPairs s.addenda⟩

theorem normalize_eq_self (once : s.DeclaresOnce) : s.normalize = s := by
  rw [normalize, Table.ofPairs_eq_self once.tiers, Table.ofPairs_eq_self once.roles]

theorem perm_sortedTiers (s : Sections) : s.sortedTiers.Perm s.tiers := List.mergeSort_perm _ _

/-- The levels of the tiers that are declared, in the order of all levels. -/
theorem sortedTiers_sublist (once : (s.tiers.map (·.1)).Nodup) :
    (s.sortedTiers.map (·.1)).Sublist Tier.all := by
  have transitive : ∀ a b c : Tier × List Fragment, decide (a.1.toNat ≤ b.1.toNat) = true →
      decide (b.1.toNat ≤ c.1.toNat) = true → decide (a.1.toNat ≤ c.1.toNat) = true := by
    intro a b c first second
    simp only [decide_eq_true_eq] at first second ⊢
    omega
  have total : ∀ a b : Tier × List Fragment,
      (decide (a.1.toNat ≤ b.1.toNat) || decide (b.1.toNat ≤ a.1.toNat)) = true := by
    intro a b
    simp only [Bool.or_eq_true, decide_eq_true_eq]
    omega
  have sorted : (s.sortedTiers.map (·.1)).Pairwise fun a b => a.toNat ≤ b.toNat := by
    rw [List.pairwise_map, sortedTiers]
    simpa only [decide_eq_true_eq] using List.pairwise_mergeSort transitive total s.tiers
  have antisymmetric : Std.Antisymm fun a b : Tier => a.toNat ≤ b.toNat := by
    constructor
    intro a b first second
    cases a <;> cases b <;> first | rfl | contradiction
  have distinct : (s.sortedTiers.map (·.1)).Nodup :=
    ((s.perm_sortedTiers.map (·.1)).nodup_iff).mpr once
  have present : s.sortedTiers.map (·.1) ⊆ Tier.all := by
    intro t _
    cases t <;> decide
  exact List.sublist_of_subperm_of_pairwise (List.subperm_of_subset distinct present) sorted (by decide)

/-- The enumeration of a library goes through its sections in their order. -/
theorem fragments_eq_inOrder (once : (s.tiers.map (·.1)).Nodup) : s.fragments = s.inOrder := by
  have same : ∀ t, s.tier? t = s.sortedTiers.lookup t := fun t =>
    Table.lookup_eq_of_perm s.perm_sortedTiers.symm once t
  simp only [fragments, inOrder, same]
  rw [Table.flatMap_lookup (sortedTiers_sublist once) (by decide)]

/-- What is declared for a tier does not depend on the order of the tiers. -/
theorem tier?_of_perm (reordered : s.tiers.Perm tiers) (once : (s.tiers.map (·.1)).Nodup)
    (t : Tier) : Sections.tier? { s with tiers := tiers }.normalize t = s.normalize.tier? t := by
  have onceMore : (tiers.map (·.1)).Nodup := (reordered.map (·.1)).nodup once
  rw [tier?, tier?, normalize, normalize, Table.ofPairs_eq_self onceMore,
    Table.ofPairs_eq_self once]
  exact (Table.lookup_eq_of_perm reordered once t).symm

theorem fragments_of_perm (reordered : s.tiers.Perm tiers) (once : (s.tiers.map (·.1)).Nodup) :
    Sections.fragments { s with tiers := tiers }.normalize = s.normalize.fragments := by
  simp only [fragments, tier?_of_perm reordered once]
  rfl

theorem mem_inOrder_iff : f ∈ s.inOrder ↔ s.Declares f := by
  simp only [inOrder, List.mem_append, List.mem_cons, List.mem_flatMap, Prod.exists,
    s.perm_sortedTiers.mem_iff]
  constructor
  · rintro (((rfl | base) | ⟨t, fs, tier, member⟩) | ⟨role, fs, addendum, member⟩)
    · exact .posture
    · exact .base base
    · exact .tier tier member
    · exact .addendum addendum member
  · intro declares
    cases declares with
    | posture => exact .inl (.inl (.inl rfl))
    | base member => exact .inl (.inl (.inr member))
    | tier tier member => exact .inl (.inr ⟨_, _, tier, member⟩)
    | addendum addendum member => exact .inr ⟨_, _, addendum, member⟩

end Sections

/-! ### Construction -/

namespace Library
open Sections
variable {l other : Library}

theorem ofSections_eq_ok_iff : ofSections declared = .ok l ↔ l.toSections = declared.normalize := by
  constructor
  · intro built
    unfold ofSections at built
    dsimp only at built
    split at built
    · contradiction
    · rw [← Except.ok.inj built]
  · intro same
    have none : firstRepeated [] (declared.normalize.fragments.map (·.id)) = none := by
      rw [firstRepeated_eq_none_iff, ← same]
      exact ⟨l.ids_nodup, fun _ _ => List.not_mem_nil⟩
    unfold ofSections
    dsimp only
    split
    · next id found =>
      rw [none] at found
      contradiction
    · congr
      obtain ⟨sections, distinct⟩ := l
      obtain rfl := same
      rfl

theorem ofSections_eq_error_iff {fault : DuplicateDeclaration} :
    ofSections declared = .error fault ↔ fault.library = declared.name ∧
      FirstRepeats (declared.normalize.fragments.map (·.id)) fault.id := by
  rw [← firstRepeated_iff]
  unfold ofSections
  dsimp only
  split
  · next id found =>
    rw [found]
    constructor
    · intro failed
      obtain rfl := Except.error.inj failed
      exact ⟨rfl, rfl⟩
    · rintro ⟨library, same⟩
      obtain ⟨name, other⟩ := fault
      obtain rfl : name = declared.name := library
      obtain rfl : id = other := Option.some.inj same
      rfl
  · next found =>
    constructor
    · intro failed
      contradiction
    · rintro ⟨-, same⟩
      rw [found] at same
      contradiction

theorem exists_ofSections_iff : (∃ l, ofSections declared = .ok l) ↔
    (declared.normalize.fragments.map (·.id)).Nodup := by
  constructor
  · rintro ⟨l, built⟩
    rw [← ofSections_eq_ok_iff.mp built]
    exact l.ids_nodup
  · intro distinct
    exact ⟨⟨declared.normalize, distinct⟩, ofSections_eq_ok_iff.mpr rfl⟩

/-- A library gives each of its fragments for the fragment's id. -/
theorem find?_of_mem_fragments (member : f ∈ l.fragments) : l.find? f.id = some f :=
  Table.find?_of_mem l.ids_nodup member

theorem find?_of_fresh (fresh : ∀ f ∈ l.fragments, f.id ≠ id) : l.find? id = none := by
  rw [find?, List.find?_eq_none]
  intro f member same
  exact fresh f member (eq_of_beq same)

/-- A composition asks for tiers by their levels only. -/
theorem compose_congr (rest : other.toSections = { l.toSections with tiers := tiers })
    (same : ∀ t, other.tier? t = l.tier? t) (store : Store) (requested : Value)
    (roles : List String) :
    other.compose store requested roles = l.compose store requested roles := by
  have checked : ∀ tier, other.checkTier tier = l.checkTier tier := by
    intro tier
    cases tier with
    | none => rfl
    | some t => rw [checkTier, checkTier, same, rest]
  have levels : other.tierFragments = l.tierFragments := by
    funext t
    simp only [tierFragments, same]
  have considered : ∀ tier, other.considered tier roles = l.considered tier roles := by
    intro tier
    rw [considered, considered, levels, rest]
    rfl
  have chosen : ∀ tier, other.composeChosen store tier roles =
      l.composeChosen store tier roles := by
    intro tier
    rw [composeChosen, composeChosen, checked, checkRoles, checkRoles, composeSelected,
      composeSelected, considered, rest]
    rfl
  rw [compose, compose]
  simp only [chosen]

/-- Sections whose tiers are declared in another order are taken or refused alike. -/
theorem ofSections_of_perm (reordered : declared.tiers.Perm tiers)
    (once : (declared.tiers.map (·.1)).Nodup) :
    Agree Eq (fun l other => other.fragments = l.fragments ∧ ∀ store requested roles,
        other.compose store requested roles = l.compose store requested roles)
      (ofSections declared) (ofSections { declared with tiers := tiers }) := by
  have row := fragments_of_perm reordered once
  cases ended : ofSections declared with
  | error fault =>
    obtain ⟨library, repeats⟩ := ofSections_eq_error_iff.mp ended
    rw [← row] at repeats
    have refused : ofSections { declared with tiers := tiers } = .error fault :=
      ofSections_eq_error_iff.mpr ⟨library, repeats⟩
    rw [refused]
    exact .error rfl
  | ok l =>
    have distinct := exists_ofSections_iff.mp ⟨l, ended⟩
    rw [← row] at distinct
    obtain ⟨other, also⟩ := exists_ofSections_iff.mpr distinct
    have sections := ofSections_eq_ok_iff.mp ended
    have others := ofSections_eq_ok_iff.mp also
    rw [also]
    refine .ok ⟨?_, ?_⟩
    · rw [others, sections]
      exact row
    · apply compose_congr
      · rw [others, sections]
        rfl
      · intro t
        rw [others, sections]
        exact tier?_of_perm reordered once t

/-- A library gives each fragment of its sections for the fragment's id, and nothing for another
id. -/
theorem find?_of_declares (built : ofSections declared = .ok l)
    (declares : declared.normalize.Declares f) : l.find? f.id = some f := by
  have once := (declaresOnce_normalize declared).tiers
  apply find?_of_mem_fragments
  rw [ofSections_eq_ok_iff.mp built, fragments_eq_inOrder once]
  exact mem_inOrder_iff.mpr declares

theorem find?_of_undeclared (built : ofSections declared = .ok l)
    (undeclared : ∀ f, declared.normalize.Declares f → f.id ≠ id) : l.find? id = none := by
  have once := (declaresOnce_normalize declared).tiers
  apply find?_of_fresh
  intro f member
  rw [ofSections_eq_ok_iff.mp built, fragments_eq_inOrder once] at member
  exact undeclared f (mem_inOrder_iff.mp member)

/-- The identity of fragments. Sections make a library if the ids along all of them are distinct;
else the first that repeats another one is named. A library has just these sections, it gives each
of their fragments for the fragment's id and nothing for any other id; and neither its fragments
nor what it composes depend on the order in which the tiers were declared. -/
theorem ofSections_identifies (declared : Sections) :
    (declared.DeclaresOnce → declared.normalize = declared) ∧
    ((∃ l, ofSections declared = .ok l) ↔ (declared.normalize.inOrder.map (·.id)).Nodup) ∧
    (∀ fault, ofSections declared = .error fault ↔ fault.library = declared.name ∧
      FirstRepeats (declared.normalize.inOrder.map (·.id)) fault.id) ∧
    (∀ l, ofSections declared = .ok l →
      l.toSections = declared.normalize ∧ l.fragments = declared.normalize.inOrder ∧
        (∀ f, declared.normalize.Declares f → l.find? f.id = some f) ∧
        ∀ id, (∀ f, declared.normalize.Declares f → f.id ≠ id) → l.find? id = none) ∧
    ∀ tiers, declared.tiers.Perm tiers → (declared.tiers.map (·.1)).Nodup →
      Agree Eq (fun l other => other.fragments = l.fragments ∧ ∀ store requested roles,
          other.compose store requested roles = l.compose store requested roles)
        (ofSections declared) (ofSections { declared with tiers := tiers }) := by
  have row : declared.normalize.fragments = declared.normalize.inOrder :=
    fragments_eq_inOrder (declaresOnce_normalize declared).tiers
  rw [← row]
  refine ⟨normalize_eq_self, exists_ofSections_iff, ?_, ?_, ?_⟩
  · intro fault
    exact ofSections_eq_error_iff
  · intro l built
    have sections := ofSections_eq_ok_iff.mp built
    refine ⟨sections, by rw [sections], ?_, ?_⟩
    · intro f declares
      exact find?_of_declares built declares
    · intro id undeclared
      exact find?_of_undeclared built undeclared
  · intro tiers reordered once
    exact ofSections_of_perm reordered once

/-- Sections whose tiers are declared from the most restrictive one downwards. -/
def descendingSections : Sections where
  name := "descending"
  posture := ⟨"posture", [.leaf ⟨.deny, ["default"], [], [], none⟩], .always, ""⟩
  base := [⟨"files", [], .always, ""⟩]
  tiers := [(.level3, [⟨"sealed", [], .always, ""⟩]), (.level1, [⟨"open", [], .always, ""⟩])]
  addenda := [("gpu", [⟨"gpu", [], .always, ""⟩])]
  aliases := []

theorem ofSections_identifies_descending :
    descendingSections.DeclaresOnce ∧ descendingSections.normalize = descendingSections ∧
    descendingSections.tiers.Perm descendingSections.tiers.reverse ∧
    ∃ l, ofSections descendingSections = .ok l ∧
      l.fragments.map (·.id) = ["posture", "files", "open", "sealed", "gpu"] ∧
      l.find? "open" = some ⟨"open", [], .always, ""⟩ ∧ l.find? "audio" = none ∧
      ∃ other, ofSections { descendingSections with
          tiers := descendingSections.tiers.reverse } = .ok other ∧
        other.fragments = l.fragments ∧ ∀ store requested roles,
          other.compose store requested roles = l.compose store requested roles := by
  have once : descendingSections.DeclaresOnce := ⟨by decide, by decide⟩
  have reordered : descendingSections.tiers.Perm descendingSections.tiers.reverse :=
    (List.reverse_perm _).symm
  obtain ⟨normal, succeeds, -, identified, alike⟩ := ofSections_identifies descendingSections
  have levels : descendingSections.normalize.inOrder = descendingSections.fragments := by
    rw [normal once, fragments_eq_inOrder once.tiers]
  obtain ⟨l, built⟩ := succeeds.mpr (by rw [levels]; decide)
  obtain ⟨-, row, found, unknown⟩ := identified l built
  refine ⟨once, normal once, reordered, l, built, ?_, ?_, ?_, ?_⟩
  · rw [row, levels]
    decide
  · exact found _ (.tier (List.mem_cons_of_mem _ List.mem_cons_self) List.mem_cons_self)
  · apply unknown
    intro f declares
    have others : ∀ f ∈ descendingSections.fragments, f.id ≠ "audio" := by decide
    exact others f (levels ▸ mem_inOrder_iff.mpr declares)
  · exact (alike _ reordered once.tiers).exists_ok built

end Library
end SandboxProfile
