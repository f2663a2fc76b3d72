import SandboxProfile.Policy.Template
import SandboxProfile.Proofs.Outcome
import Mathlib.Algebra.Group.Nat.Even
import Mathlib.Data.List.DropRight

/-! Values in patterns. A pattern is read from left to right: a backslash makes the character behind
it literal, and an operator that stands alone has its meaning. A text that was quoted is read as the
literal characters of the text, wherever it stands, unless a backslash is left over in front. -/
namespace SandboxProfile

namespace Pattern
variable {c : Char} {cs rest front : List Char}

/-- What a character of a pattern is read as. -/
inductive Symbol where
  | literal (c : Char)
  | operator (c : Char)
  /-- A backslash with nothing behind it. -/
  | dangling
  deriving Repr, DecidableEq

def operators : List Char :=
  ['.', '^', '$', '|', '?', '*', '+', '(', ')', '[', ']', '\x7b', '\x7d']

/-- A pattern from left to right. -/
def symbols : List Char → List Symbol
  | [] => []
  | ['\\'] => [.dangling]
  | '\\' :: c :: rest => .literal c :: symbols rest
  | c :: rest => (if c ∈ operators then .operator c else .literal c) :: symbols rest

/-- No backslash at the end of a text is left unpaired. -/
def EndsPaired (cs : List Char) : Prop := Even (cs.rtakeWhile (· = '\\')).length

instance (cs : List Char) : Decidable (EndsPaired cs) :=
  inferInstanceAs (Decidable (Even _))

theorem symbols_cons (other : c ≠ '\\') (rest : List Char) : symbols (c :: rest) =
    (if c ∈ operators then .operator c else .literal c) :: symbols rest := by
  apply symbols.eq_4
  · rintro rfl
    contradiction
  · rintro d tail rfl
    contradiction

/-- A pattern is empty, one backslash, a pair with a backslash, or begins with something else. -/
theorem pattern_induction {motive : List Char → Prop} (empty : motive [])
    (lone : motive ['\\']) (pair : ∀ c rest, motive rest → motive ('\\' :: c :: rest))
    (other : ∀ c rest, c ≠ '\\' → motive rest → motive (c :: rest)) (cs : List Char) :
    motive cs := by
  induction cs using symbols.induct with
  | case1 => exact empty
  | case2 => exact lone
  | case3 c rest ih => exact pair c rest ih
  | case4 c rest alone paired ih =>
    apply other c rest _ ih
    rintro rfl
    cases rest with
    | nil => exact alone rfl rfl
    | cons d rest => exact paired d rest rfl rfl

/-- A text behind a pattern is read on its own if no backslash is left over in front of it. -/
theorem symbols_append (paired : .dangling ∉ symbols front) (rest : List Char) :
    symbols (front ++ rest) = symbols front ++ symbols rest := by
  induction front using pattern_induction with
  | empty => rfl
  | lone => exact absurd List.mem_cons_self paired
  | pair c cs ih =>
    rw [symbols, List.mem_cons, not_or] at paired
    rw [List.cons_append, List.cons_append, symbols, symbols, ih paired.2, List.cons_append]
  | other c cs other ih =>
    rw [symbols_cons other, List.mem_cons, not_or] at paired
    rw [List.cons_append, symbols_cons other, symbols_cons other, ih paired.2, List.cons_append]

/-! ### Backslashes at the end -/

theorem rtakeWhile_cons (p : Char → Bool) (c : Char) (cs : List Char) :
    (c :: cs).rtakeWhile p =
      if (cs.rtakeWhile p).length = cs.length ∧ p c = true then c :: cs else cs.rtakeWhile p := by
  simp only [List.rtakeWhile, List.reverse_cons, List.takeWhile_append, List.length_reverse]
  by_cases whole : (cs.reverse.takeWhile p).length = cs.length
  · have all : cs.reverse.takeWhile p = cs.reverse :=
      (List.takeWhile_prefix p).eq_of_length (whole.trans cs.length_reverse.symm)
    by_cases also : p c = true
    · simp [all, also, List.takeWhile]
    · simp [all, also, List.takeWhile]
  · simp [whole]

theorem rtakeWhile_cons_of_ne (other : c ≠ '\\') (cs : List Char) :
    (c :: cs).rtakeWhile (· = '\\') = cs.rtakeWhile (· = '\\') := by
  rw [rtakeWhile_cons, if_neg]
  simpa using fun _ => other

theorem endsPaired_cons (other : c ≠ '\\') (cs : List Char) :
    EndsPaired (c :: cs) ↔ EndsPaired cs := by
  rw [EndsPaired, EndsPaired, rtakeWhile_cons_of_ne other]

theorem endsPaired_pair (c : Char) (cs : List Char) :
    EndsPaired ('\\' :: c :: cs) ↔ EndsPaired cs := by
  have bounded : (cs.rtakeWhile (· = '\\')).length ≤ cs.length :=
    (List.rtakeWhile_suffix _ cs).length_le
  rw [EndsPaired, EndsPaired, rtakeWhile_cons]
  by_cases escaped : c = '\\'
  · -- The pair lengthens the run by two if there is nothing but the run behind it.
    rw [rtakeWhile_cons]
    by_cases whole : (cs.rtakeWhile (· = '\\')).length = cs.length
    · simp [whole, escaped, Nat.even_add_one]
    · have shorter : (cs.rtakeWhile (· = '\\')).length ≠ cs.length + 1 := by omega
      simp [whole, shorter]
  · have shorter : (cs.rtakeWhile (· = '\\')).length ≠ cs.length + 1 := by omega
    rw [rtakeWhile_cons_of_ne escaped, if_neg]
    simp [shorter]

/-- Only the last run of backslashes counts, so that nothing in front of another character does. -/
theorem endsPaired_append (other : ∃ c ∈ cs, c ≠ '\\') (front : List Char) :
    EndsPaired (front ++ cs) ↔ EndsPaired cs := by
  obtain ⟨c, member, other⟩ := other
  have within : (cs.reverse.takeWhile (· = '\\')).length ≠ cs.reverse.length := by
    intro whole
    have all := (List.takeWhile_prefix _).eq_of_length whole
    rw [← List.mem_reverse, ← all] at member
    have taken := List.mem_takeWhile_imp member
    exact other (of_decide_eq_true taken)
  rw [EndsPaired, EndsPaired, List.rtakeWhile, List.rtakeWhile, List.reverse_append,
    List.takeWhile_append, if_neg within]

/-- Reading ends in a backslash that is left over just if the text ends in an odd run of them. -/
theorem dangling_mem_symbols_iff (cs : List Char) :
    .dangling ∈ symbols cs ↔ ¬EndsPaired cs := by
  induction cs using pattern_induction with
  | empty => decide
  | lone => decide
  | pair c cs ih =>
    rw [endsPaired_pair, ← ih, symbols, List.mem_cons]
    simp
  | other c cs other ih =>
    rw [endsPaired_cons other, ← ih, symbols_cons other, List.mem_cons]
    split <;> simp

end Pattern

namespace Template
open Pattern

theorem isMeta_iff (c : Char) : isMeta c = true ↔ c = '\\' ∨ c ∈ operators := by
  rw [isMeta, List.contains_iff_mem, List.mem_cons]
  rfl

/-- By induction on the text. A character of its own meaning is behind a backslash, and any other
one is no backslash. -/
theorem symbols_regexQuoteList (cs : List Char) :
    symbols (regexQuoteList cs) = cs.map .literal := by
  induction cs with
  | nil => rfl
  | cons c rest ih =>
    rw [regexQuoteList] at ih
    rw [regexQuoteList, List.flatMap_cons, List.map_cons]
    by_cases special : isMeta c = true
    · rw [if_pos special, List.cons_append, List.singleton_append, symbols, ih]
    · have plain := special
      rw [isMeta_iff, not_or] at plain
      rw [if_neg special, List.singleton_append, symbols_cons plain.1, if_neg plain.2, ih]

theorem toList_regexQuote (s : String) : (regexQuote s).toList = regexQuoteList s.toList :=
  String.toList_ofList

theorem symbols_regexQuote (s : String) :
    symbols (regexQuote s).toList = s.toList.map .literal := by
  rw [toList_regexQuote, symbols_regexQuoteList]

theorem regexQuote_append (s t : String) :
    regexQuote (s ++ t) = regexQuote s ++ regexQuote t := by
  rw [regexQuote, String.toList_append, regexQuoteList, List.flatMap_append, String.ofList_append]
  rfl

theorem regexQuote_injective : Function.Injective regexQuote := by
  intro s t same
  have literals : s.toList.map Symbol.literal = t.toList.map .literal := by
    rw [← symbols_regexQuote, ← symbols_regexQuote, same]
  have injective : Function.Injective Symbol.literal := fun _ _ => Symbol.literal.inj
  exact String.toList_inj.mp (List.map_injective_iff.mpr injective literals)

end Template

/-- The text of a setting in a template, if it can be written. A truth value has none. -/
def Setting.text? : Setting → Option String
  | .flag _ => none
  | .number i => some (toString i)
  | .text s => some s

theorem Ref.exists_text_of_resolve {store : Store} {r : Ref} {text : String}
    (resolved : r.resolve store = .ok (some text)) : ∃ setting value,
      store.setting r.param = .ok (some setting) ∧ setting.text? = some value ∧
        text = if r.regexQuote then Template.regexQuote value else value := by
  unfold Ref.resolve at resolved
  split at resolved
  · contradiction
  · split at resolved <;> simp at resolved
  · contradiction
  · next i found =>
    split at resolved
    · contradiction
    · exact ⟨_, _, found, rfl, (Option.some.inj (Except.ok.inj resolved)).symm⟩
  · next s found =>
    exact ⟨_, _, found, rfl, (Option.some.inj (Except.ok.inj resolved)).symm⟩

namespace Template
open Pattern
variable {store : Store} {front back : Template} {out : String}

theorem exists_of_render_append (rendered : render store (front ++ back) = .ok (some out)) :
    ∃ before behind, render store front = .ok (some before) ∧
      render store back = .ok (some behind) ∧ out = before ++ behind := by
  induction front generalizing out with
  | nil => exact ⟨"", out, rfl, rendered, String.empty_append.symm⟩
  | cons part rest ih =>
    cases part with
    | fixed text =>
      obtain ⟨later, others, rfl⟩ := Outcome.mapOption_eq_ok.mp rendered
      obtain ⟨before, behind, front, back, rfl⟩ := ih others
      refine ⟨text ++ before, behind, ?_, back, String.append_assoc.symm⟩
      exact Outcome.mapOption_eq_ok.mpr ⟨before, front, rfl⟩
    | ref r =>
      obtain ⟨text, resolved, rendered⟩ := Outcome.present_of_bind rendered rfl
      obtain ⟨later, others, rfl⟩ := Outcome.mapOption_eq_ok.mp rendered
      obtain ⟨before, behind, front, back, rfl⟩ := ih others
      refine ⟨text ++ before, behind, ?_, back, String.append_assoc.symm⟩
      refine Outcome.bind_eq_ok.mpr ⟨some text, resolved, ?_⟩
      exact Outcome.mapOption_eq_ok.mpr ⟨before, front, rfl⟩

/-- What a quoted reference and what stands around it are written as. -/
theorem exists_of_render_ref {r : Ref} (quoted : r.regexQuote = true)
    (rendered : render store (front ++ .ref r :: back) = .ok (some out)) :
    ∃ before value behind setting, render store front = .ok (some before) ∧
      store.setting r.param = .ok (some setting) ∧ setting.text? = some value ∧
      render store back = .ok (some behind) ∧
      out = before ++ regexQuote value ++ behind := by
  obtain ⟨before, rest, front, later, rfl⟩ := exists_of_render_append rendered
  obtain ⟨text, resolved, later⟩ := Outcome.present_of_bind later rfl
  obtain ⟨behind, back, rfl⟩ := Outcome.mapOption_eq_ok.mp later
  obtain ⟨setting, value, found, written, rfl⟩ := r.exists_text_of_resolve resolved
  refine ⟨before, value, behind, setting, front, found, written, back, ?_⟩
  rw [if_pos quoted, String.append_assoc]

/-- A quoted text between two texts, of which the first leaves no backslash over. -/
theorem symbols_regexQuote_between {before behind : String} (value : String)
    (paired : EndsPaired before.toList) :
    symbols (before ++ regexQuote value ++ behind).toList =
      symbols before.toList ++ value.toList.map .literal ++ symbols behind.toList := by
  have whole : .dangling ∉ symbols before.toList :=
    fun dangling => (dangling_mem_symbols_iff _).mp dangling paired
  have literal : .dangling ∉ symbols (regexQuote value).toList := by
    rw [symbols_regexQuote]
    simp
  have both : .dangling ∉ symbols (before.toList ++ (regexQuote value).toList) := by
    rw [symbols_append whole]
    exact fun member => (List.mem_append.mp member).elim whole literal
  rw [String.toList_append, String.toList_append, symbols_append both, symbols_append whole,
    symbols_regexQuote]

/-- The last part is fixed text that does not end in an unpaired backslash and is not a mere run of
them. -/
def EndsFixed (t : Template) : Prop :=
  ∃ others text, t = others ++ [.fixed text] ∧ EndsPaired text.toList ∧
    ∃ c ∈ text.toList, c ≠ '\\'

theorem EndsFixed.endsPaired (fixed : front.EndsFixed)
    (rendered : render store front = .ok (some out)) : EndsPaired out.toList := by
  obtain ⟨others, text, rfl, paired, other⟩ := fixed
  obtain ⟨before, behind, -, last, rfl⟩ := exists_of_render_append rendered
  obtain ⟨none, empty, rfl⟩ := Outcome.mapOption_eq_ok.mp last
  obtain rfl := Option.some.inj (Except.ok.inj empty)
  rw [String.append_empty, String.toList_append, endsPaired_append other]
  exact paired

/-- A home folder with operators and a backslash in its name. -/
def roughHome : Store :=
  ⟨none, [⟨"HOME_PATH", .path, some (.text "/a.(b)\\")⟩], none, true⟩

end Template
end SandboxProfile
