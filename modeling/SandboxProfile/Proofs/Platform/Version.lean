import SandboxProfile.Platform.Version
import SandboxProfile.Proofs.Outcome
import SandboxProfile.Proofs.Text.Integer
import SandboxProfile.Proofs.Text.Separation
import Mathlib.Data.List.Forall2

/-! Versions and their texts. A text is accepted if each part between its dots stands for an
integer, and then these integers are the version. The dotted text of a version is read as that
version, also with white space around its components. -/
namespace SandboxProfile.Version
open Text
variable {v : Version} {s : String} {parts : List String} {i : Int} {part : String}

/-! ### Parts -/

theorem components?_eq_ok_iff :
    components? s parts = .ok v ↔ List.Forall₂ Denotes parts v := by
  induction parts generalizing v with
  | nil =>
    rw [List.forall₂_nil_left_iff]
    exact ⟨fun read => (Except.ok.inj read).symm, fun none => none ▸ rfl⟩
  | cons part rest ih =>
    rw [components?]
    constructor
    · intro read
      split at read
      · contradiction
      · next i first =>
        obtain ⟨others, behind, rfl⟩ := Outcome.map_eq_ok.mp read
        exact .cons (readInteger_eq_ok_iff.mp first) (ih.mp behind)
    · intro denotes
      obtain ⟨first, behind⟩ | ⟨first, behind⟩ := denotes
      rw [readInteger_eq_ok_iff.mpr first]
      exact Outcome.map_eq_ok.mpr ⟨_, ih.mpr behind, rfl⟩

/-- Whatever part is at fault, the text as a whole is refused. -/
theorem components?_cases (s : String) (parts : List String) :
    (∃ v, components? s parts = .ok v) ∨ components? s parts = .error ⟨s⟩ := by
  induction parts with
  | nil => exact .inl ⟨[], rfl⟩
  | cons part rest ih =>
    rw [components?]
    split
    · exact .inr rfl
    · rcases ih with ⟨v, read⟩ | refused
      · exact .inl ⟨_, Outcome.map_eq_ok.mpr ⟨v, read, rfl⟩⟩
      · exact .inr (Outcome.map_eq_error.mpr refused)

/-- A text is accepted just if each part between its dots stands for an integer. -/
theorem parse_eq_ok_iff : parse s = .ok v ↔
    ∃ parts, Separated '.' (trim s) parts ∧ List.Forall₂ Denotes parts v := by
  rw [parse, components?_eq_ok_iff]
  constructor
  · intro denotes
    exact ⟨_, separated_iff.mpr rfl, denotes⟩
  · rintro ⟨parts, separated, denotes⟩
    rw [separated_iff.mp separated]
    exact denotes

theorem exists_forall₂_iff {α β : Type} {R : α → β → Prop} {items : List α} :
    (∃ results, List.Forall₂ R items results) ↔ ∀ a ∈ items, ∃ b, R a b := by
  induction items with
  | nil => exact ⟨fun _ => List.forall_mem_nil _, fun _ => ⟨[], .nil⟩⟩
  | cons a rest ih =>
    rw [List.forall_mem_cons, ← ih]
    constructor
    · rintro ⟨_, _ | ⟨first, behind⟩⟩
      exact ⟨⟨_, first⟩, _, behind⟩
    · rintro ⟨⟨b, first⟩, results, behind⟩
      exact ⟨b :: results, .cons first behind⟩

theorem not_denotes_empty : ¬Denotes "" i := by
  intro denotes
  have read := readInteger_eq_ok_iff.mpr denotes
  contradiction

/-- A text is refused as a whole just if one of its parts stands for no integer. -/
theorem parse_eq_error_iff (separated : Separated '.' (trim s) parts) :
    parse s = .error ⟨s⟩ ↔ ∃ part ∈ parts, part = "" ∨ ∀ i, ¬Denotes part i := by
  have unfit : ∀ part : String, (part = "" ∨ ∀ i, ¬Denotes part i) ↔ ∀ i, ¬Denotes part i :=
    fun part => or_iff_right_of_imp fun none i => none ▸ not_denotes_empty
  have accepted : (∃ v, parse s = .ok v) ↔ ∀ part ∈ parts, ∃ i, Denotes part i := by
    rw [← exists_forall₂_iff]
    simp only [parse, components?_eq_ok_iff, separated_iff.mp separated]
  have refused : parse s = .error ⟨s⟩ ↔ ¬∃ v, parse s = .ok v := by
    rcases components?_cases s (split '.' (trim s)) with ⟨v, read⟩ | refused
    · rw [parse, read]
      simp
    · rw [parse, refused]
      simp
  simp only [unfit]
  rw [refused, accepted]
  push Not
  rfl

/-! ### White space around components -/

/-- The decimal text of an integer with white space around it. -/
def Padded (part : String) (i : Int) : Prop :=
  Surrounded isWhiteSpace (toString i).toList part.toList

theorem Padded.dotless (padded : Padded part i) : '.' ∉ part.toList := by
  intro member
  rcases padded.mem member with inside | space
  · rw [toString_toList] at inside
    rcases List.mem_append.mp inside with sign | digit
    · cases negative : decide (i < 0) <;> simp [minus, negative] at sign
    · exact absurd (decimal_toDigits _ _ digit) (by decide)
  · contradiction

theorem denotes_of_padded (padded : List.Forall₂ Padded parts v)
    (bounded : ∀ i ∈ v, digitCount i ≤ digitLimit) : List.Forall₂ Denotes parts v := by
  induction padded with
  | nil => exact .nil
  | cons first _ ih =>
    obtain ⟨short, others⟩ := List.forall_mem_cons.mp bounded
    exact .cons (denotes_toString first short) (ih others)

theorem separated_joinWith (padded : List.Forall₂ Padded parts v) (given : v ≠ []) :
    Separated '.' (joinWith "." parts) parts where
  some := by
    rintro rfl
    exact given (List.forall₂_nil_left_iff.mp padded)
  free := by
    clear given
    induction padded with
    | nil => exact List.forall_mem_nil _
    | cons first _ ih => exact List.forall_mem_cons.mpr ⟨first.dotless, ih⟩
  joined := rfl

/-- The numeral in a component, with what stands around it. -/
theorem Padded.exists_numeral (padded : Padded part i) : ∃ front back,
    (∀ c ∈ front, isWhiteSpace c = true) ∧ (∀ c ∈ back, isWhiteSpace c = true) ∧
      part.toList = front ++ (toString i).toList ++ back ∧
      (∃ c, (toString i).toList.head? = some c ∧ isBlank c = false) ∧
      ∃ c, (toString i).toList.getLast? = some c ∧ isBlank c = false := by
  obtain ⟨front, back, before, behind, whole⟩ := padded
  have written : (toString i).toList ≠ [] := by
    rw [toString_toList]
    exact List.append_ne_nil_of_right_ne_nil _ Nat.toDigits_ne_nil
  have bare := bare_toString i
  have first := List.head?_eq_some_head written
  have last := List.getLast?_eq_some_getLast written
  exact ⟨front, back, before, behind, whole, ⟨_, first, bare.first _ first⟩,
    ⟨_, last, bare.last _ last⟩⟩

/-- The white space in front of the first component can be taken away. -/
theorem exists_bare_first (padded : List.Forall₂ Padded parts v) (given : v ≠ []) :
    ∃ inner front, List.Forall₂ Padded inner v ∧ (∀ c ∈ front, isWhiteSpace c = true) ∧
      (joinWith "." parts).toList = front ++ (joinWith "." inner).toList ∧
      ∃ c, (joinWith "." inner).toList.head? = some c ∧ isBlank c = false := by
  obtain _ | ⟨first, others⟩ := padded
  · contradiction
  · next part i rest v =>
    obtain ⟨front, back, before, behind, whole, ⟨c, head, filled⟩, -⟩ := first.exists_numeral
    refine ⟨String.ofList ((toString i).toList ++ back) :: rest, front, .cons ?_ others, before, ?_,
      c, ?_, filled⟩
    · refine ⟨[], back, List.forall_mem_nil _, behind, ?_⟩
      rw [String.toList_ofList, List.nil_append]
    · rw [joinWith_cons_toList, joinWith_cons_toList, whole]
      simp only [String.toList_ofList, List.append_assoc]
    · rw [joinWith_cons_toList, String.toList_ofList, List.append_assoc, List.head?_append, head]
      rfl

/-- The white space behind the last component can be taken away. By induction on the components:
what is in front of the last one is written in front of both texts. -/
theorem exists_bare_last (padded : List.Forall₂ Padded parts v) (given : v ≠ []) :
    ∃ inner back, List.Forall₂ Padded inner v ∧ (∀ c ∈ back, isWhiteSpace c = true) ∧
      (joinWith "." parts).toList = (joinWith "." inner).toList ++ back ∧
      ∃ c, (joinWith "." inner).toList.getLast? = some c ∧ isBlank c = false := by
  induction padded with
  | nil => contradiction
  | @cons part i rest v first others ih =>
    cases others with
    | nil =>
      obtain ⟨front, back, before, behind, whole, -, c, last, filled⟩ := first.exists_numeral
      refine ⟨[String.ofList (front ++ (toString i).toList)], back, .cons ?_ .nil, behind, ?_,
        c, ?_, filled⟩
      · refine ⟨front, [], before, List.forall_mem_nil _, ?_⟩
        rw [String.toList_ofList, List.append_nil]
      · rw [joinWith, joinWith, String.toList_ofList, whole]
      · rw [joinWith, String.toList_ofList, List.getLast?_append, last]
        rfl
    | @cons next j rest v second others =>
      obtain ⟨inner, back, kept, behind, joined, c, last, filled⟩ := ih (List.cons_ne_nil j v)
      obtain _ | ⟨nextKept, othersKept⟩ := kept
      have written (texts : List String) (more : texts ≠ []) :
          (joinWith "." (part :: texts)).toList =
            part.toList ++ '.' :: (joinWith "." texts).toList := by
        rw [joinWith, String.toList_append, String.toList_append, List.append_assoc]
        · rfl
        · exact more
      refine ⟨part :: _, back, .cons first (.cons nextKept othersKept), behind, ?_, c, ?_, filled⟩
      · rw [written _ (List.cons_ne_nil next rest), joined, written _ (List.cons_ne_nil _ _)]
        simp only [List.append_assoc, List.cons_append]
      · rw [written _ (List.cons_ne_nil _ _), List.getLast?_append, List.getLast?_cons, last]
        rfl

/-- The components of a version without the white space at either end of the whole. -/
theorem exists_bare (padded : List.Forall₂ Padded parts v) (given : v ≠ []) :
    ∃ inner, List.Forall₂ Padded inner v ∧ Bare isBlank (joinWith "." inner).toList ∧
      Surrounded isBlank (joinWith "." inner).toList (joinWith "." parts).toList := by
  obtain ⟨middle, back, kept, behind, outer, c, last, filled⟩ := exists_bare_last padded given
  obtain ⟨inner, front, kept, before, joined, d, first, started⟩ := exists_bare_first kept given
  have ends : (joinWith "." inner).toList.getLast? = some c := by
    have written : (joinWith "." inner).toList ≠ [] := by
      intro none
      rw [none] at first
      contradiction
    rw [joined, List.getLast?_append] at last
    rw [List.getLast?_eq_some_getLast written] at last ⊢
    exact last
  refine ⟨inner, kept, ⟨?_, ?_⟩, front, back, ?_, ?_, ?_⟩
  · intro e member
    rw [first] at member
    exact Option.some.inj member ▸ started
  · intro e member
    rw [ends] at member
    exact Option.some.inj member ▸ filled
  · exact fun e member => isBlank_of_isWhiteSpace (before e member)
  · exact fun e member => isBlank_of_isWhiteSpace (behind e member)
  · rw [outer, joined]

/-- A version is read from the texts of its components, whatever white space stands around them
and around the whole. -/
theorem parse_of_padded {front back : String} (padded : List.Forall₂ Padded parts v)
    (given : v ≠ []) (bounded : ∀ i ∈ v, digitCount i ≤ digitLimit)
    (before : ∀ c ∈ front.toList, isBlank c = true) (behind : ∀ c ∈ back.toList, isBlank c = true) :
    parse (front ++ joinWith "." parts ++ back) = .ok v := by
  obtain ⟨inner, kept, bare, around⟩ := exists_bare padded given
  have whole : Surrounded isBlank (joinWith "." inner).toList
      (front ++ joinWith "." parts ++ back).toList := by
    rw [String.toList_append, String.toList_append]
    exact around.widen before behind
  apply parse_eq_ok_iff.mpr
  rw [trim_eq_of_surrounded whole bare]
  exact ⟨inner, separated_joinWith kept given, denotes_of_padded kept bounded⟩

theorem parse_dotted (given : v ≠ []) (bounded : ∀ i ∈ v, digitCount i ≤ digitLimit) :
    parse v.dotted = .ok v := by
  have padded : List.Forall₂ Padded (v.map toString) v := by
    rw [List.forall₂_map_left_iff]
    exact List.forall₂_same.mpr fun i _ => .refl _
  have read : parse ("" ++ joinWith "." (v.map toString) ++ "") = .ok v := by
    apply parse_of_padded padded given bounded
    · exact List.forall_mem_nil _
    · exact List.forall_mem_nil _
  rw [String.empty_append, String.append_empty] at read
  exact read

/-- What was accepted can be written and read again. -/
theorem parse_dotted_of_parse (read : parse s = .ok v) : parse v.dotted = .ok v := by
  obtain ⟨parts, separated, denotes⟩ := parse_eq_ok_iff.mp read
  apply parse_dotted
  · rintro rfl
    exact separated.some (List.forall₂_nil_right_iff.mp denotes)
  · clear separated read
    induction denotes with
    | nil => exact List.forall_mem_nil _
    | cons first _ ih => exact List.forall_mem_cons.mpr ⟨first.digitCount_le, ih⟩

/-- Versions and texts. The dotted text of a version is read as the version, also with white space
around components and blanks around the whole. A text without the blanks at its ends is accepted
just if each part between its dots stands for an integer, and the version is made of these; else it
is refused as a whole. The dotted text of a version that was read is read as the same version. -/
theorem texts_round_trip :
    (∀ v : Version, v ≠ [] → (∀ i ∈ v, digitCount i ≤ digitLimit) →
      parse v.dotted = .ok v ∧
      ∀ (parts : List String) (front back : String), List.Forall₂ Padded parts v →
        (∀ c ∈ front.toList, isBlank c = true) → (∀ c ∈ back.toList, isBlank c = true) →
          parse (front ++ joinWith "." parts ++ back) = .ok v) ∧
    ∀ s : String, ∃ core parts, Surrounded isBlank core.toList s.toList ∧
      Bare isBlank core.toList ∧ Separated '.' core parts ∧
      (∀ v, parse s = .ok v ↔ List.Forall₂ Denotes parts v) ∧
      (parse s = .error ⟨s⟩ ↔ ∃ part ∈ parts, part = "" ∨ ∀ i, ¬Denotes part i) ∧
      ∀ v, parse s = .ok v → parse v.dotted = .ok v := by
  constructor
  · intro v given bounded
    constructor
    · exact parse_dotted given bounded
    · intro parts front back padded before behind
      exact parse_of_padded padded given bounded before behind
  · intro s
    have separated : Separated '.' (trim s) (split '.' (trim s)) := separated_iff.mpr rfl
    refine ⟨trim s, _, surrounded_trim s, bare_trim s, separated, ?_, ?_, ?_⟩
    · intro v
      rw [parse, components?_eq_ok_iff]
    · exact parse_eq_error_iff separated
    · intro v read
      exact parse_dotted_of_parse read

theorem texts_round_trip_padded :
    (∀ i ∈ [10, -9], digitCount i ≤ digitLimit) ∧
      List.Forall₂ Padded ["10\t", "\u2003-9"] [10, -9] ∧
      parse ("\x1c " ++ joinWith "." ["10\t", "\u2003-9"] ++ "\n") = .ok [10, -9] := by
  have bounded : ∀ i ∈ [10, -9], digitCount i ≤ digitLimit := by decide
  have padded : List.Forall₂ Padded ["10\t", "\u2003-9"] [10, -9] := by
    refine .cons ⟨[], ['\t'], ?_, ?_, rfl⟩ (.cons ⟨['\u2003'], [], ?_, ?_, rfl⟩ .nil)
    all_goals exact List.all_eq_true.mp rfl
  exact ⟨bounded, padded, (texts_round_trip.1 [10, -9] (by decide) bounded).2 _ _ _ padded
    (List.all_eq_true.mp rfl) (List.all_eq_true.mp rfl)⟩

end SandboxProfile.Version
