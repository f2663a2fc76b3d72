import SandboxProfile.Text.Layout

/-! Texts in parts. Put together with the separator, the parts that a text is split into give the
text again, and no other parts without a separator in them do. -/
namespace SandboxProfile.Text
variable {sep : Char} {cs piece : List Char} {s : String} {parts : List String}

/-- The parts of a text between its separators. -/
structure Separated (sep : Char) (s : String) (parts : List String) : Prop where
  some : parts ≠ []
  free : ∀ part ∈ parts, sep ∉ part.toList
  joined : joinWith (String.singleton sep) parts = s

theorem splitList_eq_splitOn (sep : Char) (cs : List Char) : splitList sep cs = cs.splitOn sep := by
  rw [List.splitOn_eq_splitOnP]
  induction cs with
  | nil => rw [splitList, List.splitOnP_nil]
  | cons c rest ih =>
    rw [splitList, List.splitOnP_cons_eq_if_modifyHead, ← ih]
    by_cases same : c = sep
    · rw [if_pos same, if_pos (beq_iff_eq.mpr same)]
    · rw [if_neg same, if_neg (mt beq_iff_eq.mp same)]
      obtain ⟨piece, others, pieces⟩ := List.exists_cons_of_ne_nil (splitList_ne_nil sep rest)
      rw [pieces]
      rfl

theorem not_mem_of_mem_splitList (member : piece ∈ splitList sep cs) : sep ∉ piece := by
  induction cs generalizing piece with
  | nil =>
    obtain rfl := List.mem_singleton.mp member
    exact List.not_mem_nil
  | cons c rest ih =>
    rw [splitList] at member
    split at member
    · rcases List.mem_cons.mp member with rfl | member
      · exact List.not_mem_nil
      · exact ih member
    · next other =>
      obtain ⟨first, others, pieces⟩ := List.exists_cons_of_ne_nil (splitList_ne_nil sep rest)
      rw [pieces] at member ih
      rcases List.mem_cons.mp member with rfl | member
      · exact List.not_mem_cons_of_ne_of_not_mem (Ne.symm other) (ih List.mem_cons_self)
      · exact ih (List.mem_cons_of_mem first member)

theorem toList_joinWith (sep : String) (parts : List String) :
    (joinWith sep parts).toList = sep.toList.intercalate (parts.map String.toList) := by
  induction parts with
  | nil => rfl
  | cons part rest ih =>
    cases rest with
    | nil => rw [joinWith, List.map_cons, List.map_nil, List.intercalate_singleton]
    | cons next rest =>
      rw [joinWith, String.toList_append, String.toList_append, ih]
      · simp only [List.map_cons, List.intercalate_cons_cons]
      · exact List.cons_ne_nil next rest

/-- Splitting gives the parts of a text, and they are the only ones. -/
theorem separated_iff : Separated sep s parts ↔ split sep s = parts := by
  constructor
  · intro separated
    have free : ∀ piece ∈ parts.map String.toList, sep ∉ piece := by
      intro piece member
      obtain ⟨part, present, rfl⟩ := List.mem_map.mp member
      exact separated.free part present
    have some : parts.map String.toList ≠ [] := by
      simpa using separated.some
    rw [split, splitList_eq_splitOn, ← separated.joined, toList_joinWith, String.toList_singleton,
      List.splitOn_intercalate sep free some, List.map_map]
    simp
  · rintro rfl
    constructor
    · rw [split]
      simpa using splitList_ne_nil sep s.toList
    · intro part member
      obtain ⟨piece, present, rfl⟩ := List.mem_map.mp member
      rw [String.toList_ofList]
      exact not_mem_of_mem_splitList present
    · apply String.toList_inj.mp
      rw [toList_joinWith, split, List.map_map, String.toList_singleton]
      simp only [Function.comp_def, String.toList_ofList, List.map_id', splitList_eq_splitOn]
      exact List.intercalate_splitOn sep

end SandboxProfile.Text
