import SandboxProfile.Table
import Mathlib.Data.List.Nodup

/-! Tables that were changed. Looking up in what was put there, and in what is left when some
keys are taken away; and where a new key is put. -/
namespace SandboxProfile.Table
variable {κ α : Type} [BEq κ]

theorem lookup_cons_eq (key k : κ) (value : α) (rest : List (κ × α)) :
    ((key, value) :: rest).lookup k = if k == key then some value else rest.lookup k := by
  rw [List.lookup_cons]
  cases k == key <;> rfl

/-- A table has a new value where it was put, and elsewhere what it had. -/
theorem lookup_insert [LawfulBEq κ] (key k : κ) (value : α) (table : List (κ × α)) :
    (insert key value table).lookup k = if k == key then some value else table.lookup k := by
  unfold insert
  induction table with
  | nil => rw [insertBy, lookup_cons_eq]
  | cons entry rest ih =>
    obtain ⟨first, old⟩ := entry
    rw [insertBy]
    by_cases replaced : (first == key) = true
    · obtain rfl := eq_of_beq replaced
      rw [if_pos replaced, lookup_cons_eq, lookup_cons_eq]
      cases k == first <;> rfl
    · rw [if_neg replaced, lookup_cons_eq, lookup_cons_eq, ih]
      by_cases same : (k == first) = true
      · obtain rfl := eq_of_beq same
        rw [if_pos same, if_neg replaced, if_pos same]
      · rw [if_neg same, if_neg same]

theorem insert_cons [LawfulBEq κ] (key : κ) (value old : α) (rest : List (κ × α)) :
    insert key value ((key, old) :: rest) = (key, value) :: rest := by
  unfold insert
  rw [insertBy, if_pos (beq_self_eq_true key)]

/-- A key that does not stand in the front of a table is put behind it. -/
theorem insert_append [LawfulBEq κ] {key : κ} {front : List (κ × α)}
    (missing : key ∉ front.map (·.1)) (value : α) (back : List (κ × α)) :
    insert key value (front ++ back) = front ++ insert key value back := by
  unfold insert
  induction front with
  | nil => rfl
  | cons entry rest ih =>
    rw [List.map_cons, List.mem_cons, not_or] at missing
    have other : ¬(entry.1 == key) = true := fun same => missing.1 (eq_of_beq same).symm
    rw [List.cons_append, insertBy, if_neg other, ih missing.2, List.cons_append]

/-- Where each key stands once, an item is found by its key. -/
theorem find?_of_mem [LawfulBEq κ] {items : List α} {key : α → κ} {item : α}
    (distinct : (items.map key).Nodup) (member : item ∈ items) :
    items.find? (key · == key item) = some item := by
  obtain ⟨other, found⟩ : ∃ other, items.find? (key · == key item) = some other :=
    Option.isSome_iff_exists.mp (List.find?_isSome.mpr ⟨item, member, beq_self_eq_true _⟩)
  have same : (key other == key item) = true := List.find?_some (p := (key · == key item)) found
  have present := List.mem_of_find?_eq_some found
  rw [found, List.inj_on_of_nodup_map distinct present member (eq_of_beq same)]

/-- The order of a table in which each key stands once does not matter. -/
theorem lookup_eq_of_perm [LawfulBEq κ] {table others : List (κ × α)}
    (reordered : table.Perm others) (distinct : (table.map (·.1)).Nodup) (k : κ) :
    table.lookup k = others.lookup k := by
  induction reordered with
  | nil => rfl
  | cons entry _ ih =>
    rw [lookup_cons_eq, lookup_cons_eq, ih (List.nodup_cons.mp distinct).2]
  | swap first second rest =>
    obtain ⟨apart, -⟩ := List.nodup_cons.mp distinct
    have other : second.1 ≠ first.1 := fun same => apart (List.mem_cons.mpr (.inl same))
    rw [lookup_cons_eq second.1, lookup_cons_eq first.1, lookup_cons_eq first.1,
      lookup_cons_eq second.1]
    by_cases here : (k == second.1) = true
    · obtain rfl := eq_of_beq here
      rw [if_pos here, if_neg (fun same => other (eq_of_beq same)), if_pos here]
    · rw [if_neg here, if_neg here]
  | trans one _ first second =>
    have alsoDistinct := (one.map (·.1)).nodup distinct
    exact (first distinct).trans (second alsoDistinct)

/-- Where the keys of a table stand in some order, its values are found along that order. By
induction on the order: a key that is skipped has no value, and one that is not stands first. -/
theorem flatMap_lookup [LawfulBEq κ] {table : List (κ × List α)} {order : List κ}
    (sorted : (table.map (·.1)).Sublist order) (distinct : order.Nodup) :
    (order.flatMap fun key => (table.lookup key).getD []) = table.flatMap (·.2) := by
  induction order generalizing table with
  | nil =>
    obtain rfl := List.map_eq_nil_iff.mp (List.sublist_nil.mp sorted)
    rfl
  | cons key order ih =>
    obtain ⟨apart, others⟩ := List.nodup_cons.mp distinct
    rw [List.flatMap_cons]
    cases table with
    | nil =>
      have skipped : (([] : List (κ × List α)).map (·.1)).Sublist order := List.nil_sublist order
      rw [ih skipped others]
      rfl
    | cons entry rest =>
      by_cases here : entry.1 = key
      · obtain rfl := here
        have behind : ∀ k ∈ order, ((entry :: rest).lookup k).getD [] = (rest.lookup k).getD [] := by
          intro k member
          have other : k ≠ entry.1 := fun same => apart (same ▸ member)
          rw [lookup_cons_eq, if_neg (mt eq_of_beq other)]
        rw [lookup_cons_eq, if_pos (beq_self_eq_true entry.1), List.flatMap_congr behind,
          ih (List.cons_sublist_cons.mp sorted) others]
        rfl
      · have skipped : ((entry :: rest).map (·.1)).Sublist order := by
          rcases List.sublist_cons_iff.mp sorted with skipped | ⟨_, same, -⟩
          · exact skipped
          · exact absurd (List.cons.inj same).1 here
        have missing : (entry :: rest).lookup key = none := by
          rw [List.lookup_eq_none_iff]
          intro other member
          have present := skipped.subset (List.mem_map_of_mem member)
          exact bne_iff_ne.mpr fun same => apart (same ▸ present)
        rw [missing, ih skipped others]
        rfl

/-- The keys of a table when one is put into it: a new one is the last. -/
theorem map_fst_insert [LawfulBEq κ] (key : κ) (value : α) (table : List (κ × α)) :
    (insert key value table).map (·.1) =
      if key ∈ table.map (·.1) then table.map (·.1) else table.map (·.1) ++ [key] := by
  unfold insert
  induction table with
  | nil => rfl
  | cons entry rest ih =>
    rw [insertBy]
    by_cases here : entry.1 = key
    · simp [here]
    · have other : ¬key = entry.1 := fun same => here same.symm
      by_cases behind : key ∈ rest.map (·.1)
      · rw [if_pos behind] at ih
        rw [if_neg (mt eq_of_beq here), List.map_cons, ih, List.map_cons,
          if_pos (List.mem_cons_of_mem entry.1 behind)]
      · rw [if_neg behind] at ih
        rw [if_neg (mt eq_of_beq here), List.map_cons, ih, List.map_cons, if_neg]
        · rfl
        · exact List.not_mem_cons_of_ne_of_not_mem other behind

/-- By induction on the pairs, for any table that they are put into. -/
theorem nodup_ofPairs [LawfulBEq κ] (pairs : List (κ × α)) :
    ((ofPairs pairs).map (·.1)).Nodup := by
  have kept : ∀ table : List (κ × α), (table.map (·.1)).Nodup →
      ((pairs.foldl (fun table entry => insert entry.1 entry.2 table) table).map (·.1)).Nodup := by
    induction pairs with
    | nil => exact fun table distinct => distinct
    | cons entry rest ih =>
      intro table distinct
      apply ih
      rw [map_fst_insert]
      split
      · exact distinct
      · next missing =>
        rw [List.nodup_append]
        refine ⟨distinct, List.nodup_singleton _, ?_⟩
        intro k member other last same
        obtain rfl := List.mem_singleton.mp last
        exact missing (same ▸ member)
  exact kept [] List.nodup_nil

/-- Pairs in which each key stands once are a table. -/
theorem ofPairs_eq_self [LawfulBEq κ] {pairs : List (κ × α)}
    (distinct : (pairs.map (·.1)).Nodup) : ofPairs pairs = pairs := by
  have appended : ∀ front : List (κ × α), ((front ++ pairs).map (·.1)).Nodup →
      pairs.foldl (fun table entry => insert entry.1 entry.2 table) front = front ++ pairs := by
    clear distinct
    induction pairs with
    | nil => exact fun front _ => (List.append_nil front).symm
    | cons entry rest ih =>
      intro front distinct
      have missing : entry.1 ∉ front.map (·.1) := by
        rw [List.map_append, List.nodup_append] at distinct
        exact fun member => distinct.2.2 _ member _ List.mem_cons_self rfl
      have put : insert entry.1 entry.2 front = front ++ [entry] := by
        have last := insert_append missing entry.2 []
        rw [List.append_nil] at last
        exact last
      rw [List.foldl_cons, put, ih]
      · exact List.append_assoc front [entry] rest
      · rw [List.append_assoc]
        exact distinct
  exact appended [] distinct

/-- Taking some keys away leaves the other ones what they had. -/
theorem lookup_filter [LawfulBEq κ] {k : κ} {keep : κ × α → Bool}
    (kept : ∀ value, keep (k, value) = true) (table : List (κ × α)) :
    (table.filter keep).lookup k = table.lookup k := by
  induction table with
  | nil => rfl
  | cons entry rest ih =>
    obtain ⟨first, old⟩ := entry
    by_cases stays : keep (first, old) = true
    · rw [List.filter_cons_of_pos stays, lookup_cons_eq, lookup_cons_eq, ih]
    · have other : ¬(k == first) = true := by
        intro same
        obtain rfl := eq_of_beq same
        exact stays (kept old)
      rw [List.filter_cons_of_neg stays, lookup_cons_eq, if_neg other, ih]

end SandboxProfile.Table
