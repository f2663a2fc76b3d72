import SandboxProfile.Console.Line
import SandboxProfile.Text.Quoted

/-! Texts that a console takes as they are. A text in which nothing can be a tag can always be
written, and a text is echoed unchanged exactly if there is no escape sequence in it. -/
namespace SandboxProfile

/-! ### Tags -/

namespace Markup

/-- No bracket has behind it what a tag starts with. -/
def Tagless (cs : List Char) : Prop := ∀ c, ['[', c] <:+: cs → startsTag c = false

namespace Tagless
variable {cs ds : List Char}

theorem of_infix (tagless : Tagless cs) (inside : ds <:+: cs) : Tagless ds :=
  fun c there => tagless c (there.trans inside)

theorem of_not_mem (absent : '[' ∉ cs) : Tagless cs := by
  intro c there
  exact absurd (there.subset List.mem_cons_self) absent

/-- A text without brackets may stand in front. -/
theorem append (absent : '[' ∉ ds) (tagless : Tagless cs) : Tagless (ds ++ cs) := by
  induction ds with
  | nil => exact tagless
  | cons d rest ih =>
    rw [List.mem_cons, not_or] at absent
    intro c there
    rcases List.infix_cons_iff.mp there with first | later
    · exact absurd (List.cons_prefix_cons.mp first).1 absent.1
    · exact ih absent.2 c later

theorem tag?_eq_none (tagless : Tagless ('[' :: cs)) : tag? cs = none := by
  cases cs with
  | nil => rfl
  | cons c rest =>
    have plain : startsTag c = false := tagless c (List.prefix_append ['[', c] rest).isInfix
    simp [tag?, plain]

theorem pieces_plain (tagless : Tagless cs) (fuel : Nat) :
    ∀ p ∈ pieces fuel cs, ∃ shown, p = .plain shown := by
  induction fuel generalizing cs with
  | zero => simp [pieces]
  | succ fuel ih =>
    cases cs with
    | nil => simp [pieces]
    | cons c rest =>
      have behind : (c :: rest).dropWhile (· = '\\') <:+: c :: rest :=
        (List.dropWhile_suffix _).isInfix
      rw [pieces]
      split
      · next after found =>
        rw [found] at behind
        have bracket := tagless.of_infix behind
        rw [tag?_eq_none bracket]
        have later := ih (bracket.of_infix (List.suffix_cons '[' after).isInfix)
        exact List.forall_mem_cons.mpr ⟨⟨_, rfl⟩, later⟩
      · split
        · have later := ih (tagless.of_infix (List.suffix_cons c rest).isInfix)
          exact List.forall_mem_cons.mpr ⟨⟨_, rfl⟩, later⟩
        · exact List.forall_mem_cons.mpr ⟨⟨_, rfl⟩, ih (tagless.of_infix behind)⟩

end Tagless

theorem exists_unstyled {ps : List Piece} (plain : ∀ p ∈ ps, ∃ shown, p = .plain shown) :
    ∃ cs, unstyled? [] ps = some cs := by
  induction ps with
  | nil => exact ⟨[], rfl⟩
  | cons p rest ih =>
    obtain ⟨⟨shown, rfl⟩, others⟩ := List.forall_mem_cons.mp plain
    obtain ⟨cs, unstyled⟩ := ih others
    exact ⟨shown ++ cs, by rw [unstyled?, unstyled, Option.map_some]⟩

end Markup

namespace Text

theorem not_mem_hexFixed (width n : Nat) : '[' ∉ hexFixed width n := by
  have digits : ∀ digit < 16, '[' ≠ Nat.digitChar digit := by decide
  induction width generalizing n with
  | zero => exact List.not_mem_nil
  | succ width ih =>
    rw [hexFixed, List.mem_append, not_or]
    refine ⟨ih (n / 16), ?_⟩
    rw [List.mem_singleton]
    exact digits _ (Nat.mod_lt n (by decide))

theorem not_mem_quotedChar {mark c : Char} (other : c ≠ '[') : '[' ∉ quotedChar mark c := by
  unfold quotedChar
  repeat' split
  all_goals simp [other.symm, not_mem_hexFixed]

/-- Quoting brings no brackets. -/
theorem not_mem_quoted {s : String} (absent : '[' ∉ s.toList) : '[' ∉ (quoted s).toList := by
  have mark : '[' ≠ quoteMark s.toList := by
    unfold quoteMark
    split <;> decide
  rw [quoted, String.toList_ofList]
  simp only [List.mem_cons, List.mem_append, List.mem_flatMap, List.not_mem_nil, or_false, mark,
    false_or]
  rintro ⟨c, member, there⟩
  exact not_mem_quotedChar (ne_of_mem_of_not_mem member absent) there

end Text

namespace Console

theorem exists_print {s : String} (tagless : Markup.Tagless s.toList) :
    ∃ line, print? s = some line := by
  obtain ⟨cs, unstyled⟩ := Markup.exists_unstyled (tagless.pieces_plain (s.length + 1))
  exact ⟨_, by rw [print?, Markup.text?, unstyled, Option.map_some, Option.map_some]⟩

/-! ### Escape sequences -/

/-- What may stand between the bracket and the letter of an escape sequence. -/
def fills (c : Char) : Bool := c = ';' || c = '?' || c.isDigit

/-- An escape character and a bracket, then semicolons, question marks and digits, and a letter
at the end. -/
def IsSequence (cs : List Char) : Prop :=
  ∃ (between : List Char) (letter : Char), cs = '\x1b' :: '[' :: (between ++ [letter]) ∧
    (∀ c ∈ between, fills c = true) ∧ letter.isAlpha = true

def HoldsSequence (cs : List Char) : Prop := ∃ sequence, IsSequence sequence ∧ sequence <:+: cs

theorem toNat_of_isAlpha {c : Char} (alpha : c.isAlpha = true) : 65 ≤ c.toNat := by
  have either : (c.isUpper || c.isLower) = true := alpha
  rcases Bool.or_eq_true_iff.mp either with upper | lower
  · have bounds : 'A'.val ≤ c.val ∧ c.val ≤ 'Z'.val := of_decide_eq_true upper
    exact UInt32.le_iff_toNat_le.mp bounds.1
  · have bounds : (decide ('a'.val ≤ c.val) && decide (c.val ≤ 'z'.val)) = true := lower
    have above := of_decide_eq_true (Bool.and_eq_true_iff.mp bounds).1
    exact Nat.le_trans (by decide) (UInt32.le_iff_toNat_le.mp above)

theorem toNat_of_fills {c : Char} (fill : fills c = true) : c.toNat < 65 := by
  have either : (decide (c = ';') || decide (c = '?') || c.isDigit) = true := fill
  rw [Bool.or_eq_true_iff, Bool.or_eq_true_iff, decide_eq_true_eq, decide_eq_true_eq] at either
  rcases either with (rfl | rfl) | digit
  · decide
  · decide
  · have bounds : (decide ('0'.val ≤ c.val) && decide (c.val ≤ '9'.val)) = true := digit
    have below := of_decide_eq_true (Bool.and_eq_true_iff.mp bounds).2
    exact Nat.lt_of_le_of_lt (UInt32.le_iff_toNat_le.mp below) (by decide)

theorem fills_of_isAlpha {c : Char} (alpha : c.isAlpha = true) : fills c = false := by
  rw [Bool.eq_false_iff]
  intro fill
  exact absurd (toNat_of_fills fill) (Nat.not_lt.mpr (toNat_of_isAlpha alpha))

theorem afterSequence?_of_nil {cs : List Char} (ends : cs.dropWhile fills = []) :
    afterSequence? cs = none := by
  delta fills at ends
  rw [afterSequence?, ends]

theorem afterSequence?_of_cons {cs rest : List Char} {c : Char}
    (reached : cs.dropWhile fills = c :: rest) :
    afterSequence? cs = if c.isAlpha then some rest else none := by
  delta fills at reached
  rw [afterSequence?, reached]

theorem afterSequence?_eq_some_iff {cs rest : List Char} : afterSequence? cs = some rest ↔
    ∃ (between : List Char) (letter : Char), cs = between ++ letter :: rest ∧
      (∀ c ∈ between, fills c = true) ∧ letter.isAlpha = true := by
  constructor
  · intro found
    have whole := (List.takeWhile_append_dropWhile (p := fills) (l := cs)).symm
    cases reached : cs.dropWhile fills with
    | nil =>
      rw [afterSequence?_of_nil reached] at found
      contradiction
    | cons letter after =>
      rw [afterSequence?_of_cons reached] at found
      obtain ⟨alpha, same⟩ := Option.ite_none_right_eq_some.mp found
      obtain rfl := Option.some.inj same
      rw [reached] at whole
      exact ⟨_, letter, whole, List.all_eq_true.mp List.all_takeWhile, alpha⟩
  · rintro ⟨between, letter, rfl, filling, alpha⟩
    have stops : ¬fills letter = true := Bool.eq_false_iff.mp (fills_of_isAlpha alpha)
    have reached : (between ++ letter :: rest).dropWhile fills = letter :: rest := by
      rw [List.dropWhile_append_of_pos filling, List.dropWhile_cons_of_neg stops]
    rw [afterSequence?_of_cons reached, if_pos alpha]

/-- Where a sequence starts. -/
theorem exists_prefix_iff {cs : List Char} : (∃ sequence, IsSequence sequence ∧ sequence <+: cs) ↔
    ∃ after rest, cs = '\x1b' :: '[' :: after ∧ afterSequence? after = some rest := by
  simp only [afterSequence?_eq_some_iff]
  constructor
  · rintro ⟨_, ⟨between, letter, rfl, filling, alpha⟩, rest, rfl⟩
    exact ⟨between ++ [letter] ++ rest, rest, rfl, between, letter, by simp, filling, alpha⟩
  · rintro ⟨_, rest, rfl, between, letter, rfl, filling, alpha⟩
    exact ⟨_, ⟨between, letter, rfl, filling, alpha⟩, rest, by simp⟩

theorem holdsSequence_cons_iff {c : Char} {cs : List Char} : HoldsSequence (c :: cs) ↔
    (∃ after rest, c :: cs = '\x1b' :: '[' :: after ∧ afterSequence? after = some rest) ∨
      HoldsSequence cs := by
  rw [← exists_prefix_iff]
  simp only [HoldsSequence, List.infix_cons_iff, and_or_left, exists_or]

theorem not_holdsSequence_nil : ¬HoldsSequence [] := by
  rintro ⟨sequence, ⟨between, letter, rfl, -⟩, there⟩
  exact absurd (List.infix_nil.mp there) (List.cons_ne_nil _ _)

theorem length_afterSequence {cs rest : List Char} (found : afterSequence? cs = some rest) :
    rest.length < cs.length := by
  obtain ⟨between, letter, rfl, -⟩ := afterSequence?_eq_some_iff.mp found
  rw [List.length_append, List.length_cons]
  omega

theorem length_withoutSequences_le (fuel : Nat) (cs : List Char) :
    (withoutSequences fuel cs).length ≤ cs.length := by
  fun_induction withoutSequences fuel cs with
  | case1 cs => exact Nat.le_refl _
  | case2 => exact Nat.le_refl _
  | case3 fuel cs rest found ih =>
    have shorter := length_afterSequence found
    simp only [List.length_cons]
    omega
  | case4 fuel cs broken ih => exact Nat.succ_le_succ ih
  | case5 fuel c cs other ih => exact Nat.succ_le_succ ih

/-- Along the recursion. A sequence that starts here is lost, so the rest is too short to be the
whole text; if none starts here, only those behind the first character count. -/
theorem withoutSequences_eq_self_iff {fuel : Nat} {cs : List Char} (enough : cs.length ≤ fuel) :
    withoutSequences fuel cs = cs ↔ ¬HoldsSequence cs := by
  fun_induction withoutSequences fuel cs with
  | case1 cs =>
    obtain rfl := List.length_eq_zero_iff.mp (Nat.le_zero.mp enough)
    simp [not_holdsSequence_nil]
  | case2 => simp [not_holdsSequence_nil]
  | case3 fuel cs rest found ih =>
    have holds : HoldsSequence ('\x1b' :: '[' :: cs) :=
      holdsSequence_cons_iff.mpr (.inl ⟨cs, rest, rfl, found⟩)
    refine iff_of_false (fun same => ?_) (not_not_intro holds)
    have shorter := length_afterSequence found
    have atMost := length_withoutSequences_le fuel rest
    rw [same] at atMost
    simp only [List.length_cons] at atMost
    omega
  | case4 fuel cs broken ih =>
    rw [List.cons_inj_right, ih (Nat.le_of_succ_le_succ enough), holdsSequence_cons_iff (c := '\x1b')]
    simp [broken]
  | case5 fuel c cs other ih =>
    rw [List.cons_inj_right, ih (Nat.le_of_succ_le_succ enough), holdsSequence_cons_iff (c := c)]
    have elsewhere : ¬∃ after rest, c :: cs = '\x1b' :: '[' :: after ∧
        afterSequence? after = some rest := by
      rintro ⟨after, rest, same, -⟩
      obtain ⟨rfl, rfl⟩ := List.cons_eq_cons.mp same
      exact other after rfl rfl
    rw [or_iff_right elsewhere]

theorem echo_eq_self_iff {s : String} : echo s = s ↔ ¬HoldsSequence s.toList := by
  rw [← withoutSequences_eq_self_iff (Nat.le_of_eq s.length_toList), echo]
  constructor
  · intro same
    have chars := congrArg String.toList same
    rwa [String.toList_ofList] at chars
  · intro same
    rw [same, String.ofList_toList]

end Console
end SandboxProfile
