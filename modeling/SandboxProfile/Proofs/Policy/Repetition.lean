import SandboxProfile.Proofs.Policy.Composition

/-! Repetition. A row of fragments each of which resolves on its own fails only for an
id that stands in it twice, and then for the first one that does. -/
namespace SandboxProfile

theorem firstRepeated_congr {seen others : List String} (same : ∀ id, id ∈ seen ↔ id ∈ others)
    (ids : List String) : firstRepeated seen ids = firstRepeated others ids := by
  induction ids generalizing seen others with
  | nil => rfl
  | cons id rest ih =>
    have again : seen.contains id = others.contains id := by simp [same id]
    have later : firstRepeated (id :: seen) rest = firstRepeated (id :: others) rest :=
      ih fun other => by simp [same other]
    rw [firstRepeated, firstRepeated, again, later]

theorem firstRepeated_eq_none_iff {seen ids : List String} :
    firstRepeated seen ids = none ↔ ids.Nodup ∧ ∀ id ∈ ids, id ∉ seen := by
  refine ⟨firstRepeated_eq_none, ?_⟩
  induction ids generalizing seen with
  | nil => intro; rfl
  | cons id rest ih =>
    rintro ⟨distinct, fresh⟩
    obtain ⟨single, distinct⟩ := List.nodup_cons.mp distinct
    have unseen : id ∉ seen := fresh id List.mem_cons_self
    have later : firstRepeated (id :: seen) rest = none := by
      refine ih ⟨distinct, fun other member => ?_⟩
      rw [List.mem_cons, not_or]
      exact ⟨fun same => single (same ▸ member), fresh other (List.mem_cons_of_mem id member)⟩
    simp [firstRepeated, unseen, later]

/-- Ids that are not repeated do not matter to the others. -/
theorem firstRepeated_append {seen earlier ids : List String} (fresh : ∀ id ∈ ids, id ∉ earlier) :
    firstRepeated (seen ++ earlier) ids = firstRepeated seen ids := by
  induction ids generalizing seen with
  | nil => rfl
  | cons id rest ih =>
    have unseen : id ∉ earlier := fresh id List.mem_cons_self
    have again : (seen ++ earlier).contains id = seen.contains id := by simp [unseen]
    have later : firstRepeated (id :: seen ++ earlier) rest = firstRepeated (id :: seen) rest :=
      ih fun other member => fresh other (List.mem_cons_of_mem id member)
    rw [firstRepeated, firstRepeated, again, ← List.cons_append, later]

theorem firstRepeated_of_fresh {earlier ids : List String} (fresh : ∀ id ∈ ids, id ∉ earlier) :
    firstRepeated earlier ids = firstRepeated [] ids := by
  have unseen : firstRepeated ([] ++ earlier) ids = firstRepeated [] ids :=
    firstRepeated_append fresh
  exact unseen

theorem firstRepeated_map {f : String → String} (injective : ∀ a b, f a = f b → a = b)
    (seen ids : List String) :
    firstRepeated (seen.map f) (ids.map f) = (firstRepeated seen ids).map f := by
  induction ids generalizing seen with
  | nil => rfl
  | cons id rest ih =>
    have again : (seen.map f).contains (f id) = seen.contains id := by
      rw [Bool.eq_iff_iff]
      simp only [List.contains_eq_mem, List.mem_map, decide_eq_true_eq]
      constructor
      · rintro ⟨other, member, same⟩
        exact injective other id same ▸ member
      · exact fun member => ⟨id, member, rfl⟩
    rw [List.map_cons, firstRepeated, firstRepeated, again, ← List.map_cons, ih]
    cases seen.contains id <;> rfl

namespace Fragment
variable {store : Store} {earlier : List String}

theorem faultsBehind_append (front back : List Fragment) :
    faultsBehind store earlier (front ++ back) =
      faultsBehind store earlier front ++ faultsBehind store (earlier ++ front.map (·.id)) back := by
  induction front generalizing earlier with
  | nil => simp [faultsBehind]
  | cons f rest ih => simp [faultsBehind_cons, ih]

/-- By induction on the row, whose fragments have no other fault. -/
theorem leftmost_of_resolves {fs : List Fragment}
    (resolves : ∀ f ∈ fs, ∃ out, f.outcome store = .ok out) :
    leftmost (faultsBehind store earlier fs) =
      (firstRepeated earlier (fs.map (·.id))).map .duplicateFragment := by
  induction fs generalizing earlier with
  | nil => rfl
  | cons f rest ih =>
    obtain ⟨⟨out, resolved⟩, others⟩ := List.forall_mem_cons.mp resolves
    have later : firstRepeated (earlier ++ [f.id]) (rest.map (·.id)) =
        firstRepeated (f.id :: earlier) (rest.map (·.id)) :=
      firstRepeated_congr (fun id => by simp [or_comm]) _
    rw [faultsBehind_cons, List.map_cons, firstRepeated, faultBehind, resolved]
    by_cases again : f.id ∈ earlier
    · simp [again]
    · simp only [again, ↓reduceIte, leftmost_none, ih others, later, List.contains_eq_mem,
        decide_false, Bool.false_eq_true]

end Fragment
end SandboxProfile
