import SandboxProfile.Proofs.Form.Reader
import Mathlib.Tactic.IntervalCases

/-! What the reader makes of the tokens of a policy: each name, text, regular
expression and mask is one token, whatever characters stand in it. -/
namespace SandboxProfile.Form

/-- Atoms and masks go on until a delimiter ends them. -/
theorem run_undelimited {begin : List Char → Token} (open_ended : begin = .atom ∨ begin = .mask)
    {cs : List Char} (plain : ∀ c ∈ cs, isDelimiter c = false) (begun : List Char)
    (items : List Form) (enclosing : List (List Form)) :
    Reader.run ⟨begin begun, items, enclosing⟩ cs =
      some ⟨begin (begun ++ cs), items, enclosing⟩ := by
  induction cs generalizing begun with
  | nil => simp
  | cons c cs ih =>
    have hc := plain c (List.mem_cons_self ..)
    have stepped : Reader.step ⟨begin begun, items, enclosing⟩ c =
        some ⟨begin (begun ++ [c]), items, enclosing⟩ := by
      rcases open_ended with rfl | rfl <;> simp [Reader.step, hc]
    rw [Reader.run_cons, stepped, Option.bind_some,
      ih (fun d hd => plain d (List.mem_cons_of_mem _ hd)), List.append_assoc]
    rfl

theorem run_regex {cs : List Char} (unquoted : '"' ∉ cs) (begun : List Char)
    (items : List Form) (enclosing : List (List Form)) :
    Reader.run ⟨.regex begun, items, enclosing⟩ cs =
      some ⟨.regex (begun ++ cs), items, enclosing⟩ := by
  induction cs generalizing begun with
  | nil => simp
  | cons c cs ih =>
    obtain ⟨hc, hcs⟩ := not_or.mp fun h => unquoted (List.mem_cons.mpr h)
    simpa [Reader.step, Ne.symm hc] using ih hcs (begun ++ [c])

/-- The escapes keep quotes and backslashes of a text inside it. -/
theorem run_escaped (cs begun : List Char) (items : List Form) (enclosing : List (List Form)) :
    Reader.run ⟨.text begun, items, enclosing⟩
        (cs.flatMap fun c => if c = '\\' || c = '"' then ['\\', c] else [c]) =
      some ⟨.text (begun ++ cs), items, enclosing⟩ := by
  induction cs generalizing begun with
  | nil => simp
  | cons c cs ih =>
    rw [List.flatMap_cons, Reader.run_append]
    by_cases special : c = '\\' || c = '"'
    · have escaped : Reader.run ⟨.text begun, items, enclosing⟩ ['\\', c] =
          some ⟨.text (begun ++ [c]), items, enclosing⟩ := by
        simp only [Bool.or_eq_true, decide_eq_true_eq] at special
        rcases special with rfl | rfl <;> rfl
      rw [if_pos special, escaped, Option.bind_some, ih, List.append_assoc]
      rfl
    · have kept : Reader.run ⟨.text begun, items, enclosing⟩ [c] =
          some ⟨.text (begun ++ [c]), items, enclosing⟩ := by
        simp only [Bool.or_eq_true, decide_eq_true_eq, not_or] at special
        simp [Reader.step, special.1, special.2]
      rw [if_neg special, kept, Option.bind_some, ih, List.append_assoc]
      rfl

theorem spells_atom {s : String} (plain : isPlainName s = true) : Spells s.toList [.atom s] := by
  intro items enclosing
  unfold isPlainName at plain
  split at plain
  · contradiction
  · next c cs split =>
    simp only [Bool.and_eq_true, bne_iff_ne, List.all_eq_true, Bool.not_eq_eq_eq_not,
      Bool.not_true] at plain
    obtain ⟨notHash, undelimited⟩ := plain
    have hc := undelimited c (List.mem_cons_self ..)
    have hcs := run_undelimited (.inl rfl)
      (fun d hd => undelimited d (List.mem_cons_of_mem _ hd)) [c] items enclosing
    refine ⟨⟨.atom (c :: cs), items, enclosing⟩, ?_, ?_⟩
    · rw [split, Reader.run_cons]
      simpa [Reader.step, hc, notHash] using hcs
    · rw [← String.ofList_toList (s := s), split]
      rfl

theorem spells_quote (s : String) : Spells (Arg.quote s).toList [.text s] := by
  apply spells_of_run
  intro items enclosing
  have opened : Reader.step ⟨.gap, items, enclosing⟩ '"' =
      some ⟨.text [], items, enclosing⟩ := rfl
  have closed : Reader.run ⟨.text s.toList, items, enclosing⟩ ['"'] =
      some ⟨.gap, items ++ [.text (String.ofList s.toList)], enclosing⟩ := rfl
  have body := run_escaped s.toList [] items enclosing
  simp only [Arg.quote, String.toList_append, String.toList_ofList]
  rw [List.append_assoc]
  change Reader.run _ ('"' :: (_ ++ ['"'])) = _
  rw [Reader.run_cons, opened, Option.bind_some, Reader.run_append, body, Option.bind_some,
    List.nil_append, closed, String.ofList_toList]

theorem spells_regex {s : String} (unquoted : hasDoubleQuote s = false) :
    Spells ("#\"" ++ s ++ "\"").toList [.regex s] := by
  apply spells_of_run
  intro items enclosing
  have opened : Reader.run ⟨.gap, items, enclosing⟩ "#\"".toList =
      some ⟨.regex [], items, enclosing⟩ := rfl
  have closed : Reader.run ⟨.regex s.toList, items, enclosing⟩ "\"".toList =
      some ⟨.gap, items ++ [.regex (String.ofList s.toList)], enclosing⟩ := rfl
  have absent : '"' ∉ s.toList := by simpa [hasDoubleQuote] using unquoted
  rw [String.toList_append, String.toList_append, List.append_assoc, Reader.run_append, opened,
    Option.bind_some, Reader.run_append, run_regex absent, Option.bind_some, List.nil_append,
    closed, String.ofList_toList]

theorem isOctalDigit_of_mem_toDigits {n : Nat} {c : Char} (h : c ∈ Nat.toDigits 8 n) :
    isOctalDigit c = true := by
  induction n using Nat.base_induction 8 (by decide) with
  | single m hm =>
    rw [Nat.toDigits_of_lt_base hm, List.mem_singleton] at h
    subst h
    interval_cases m <;> decide
  | digit m k hk hm ih =>
    rw [← Nat.toDigits_append_toDigits (by decide) hm hk, Nat.toDigits_of_lt_base hk,
      List.mem_append, List.mem_singleton] at h
    rcases h with h | rfl
    · exact ih h
    · interval_cases k <;> decide

/-- The digits of a number behind zeros that fill them up. -/
def paddedDigits (zeros n : Nat) : List Char := List.replicate zeros '0' ++ Nat.toDigits 8 n

theorem isOctalDigit_of_mem_paddedDigits {zeros n : Nat} {c : Char}
    (h : c ∈ paddedDigits zeros n) : isOctalDigit c = true := by
  rcases List.mem_append.mp h with h | h
  · rw [List.eq_of_mem_replicate h]
    decide
  · exact isOctalDigit_of_mem_toDigits h

theorem octalValue?_paddedDigits (zeros n : Nat) :
    octalValue? (paddedDigits zeros n) = some n := by
  have octal : (paddedDigits zeros n).all isOctalDigit = true :=
    List.all_eq_true.mpr fun c hc => isOctalDigit_of_mem_paddedDigits hc
  have nonempty : paddedDigits zeros n ≠ [] := by simp [paddedDigits, Nat.toDigits_ne_nil]
  rw [octalValue?, if_pos ⟨nonempty, octal⟩, paddedDigits, Nat.ofDigitChars_append,
    Nat.ofDigitChars_replicate_zero, Nat.mul_zero,
    Nat.ofDigitChars_toDigits (by decide) (by decide)]

/-- No digit is a sign, so a number without a sign is read as it stands. -/
theorem maskValue?_paddedDigits (zeros n : Nat) :
    maskValue? (paddedDigits zeros n) = some (n : Int) := by
  unfold maskValue?
  split
  · next cs signed =>
    have sign : '-' ∈ paddedDigits zeros n := signed ▸ List.mem_cons_self
    have digit : isOctalDigit '-' = true := isOctalDigit_of_mem_paddedDigits sign
    contradiction
  · rw [octalValue?_paddedDigits, Option.map_some]

theorem not_isDelimiter_of_isOctalDigit {c : Char} (h : isOctalDigit c = true) :
    isDelimiter c = false := by
  have digits : ("01234567".toList.all fun d => !isDelimiter d) = true := by decide
  simpa using List.all_eq_true.mp digits c (by simpa [isOctalDigit] using h)

theorem spells_mask {cs : List Char} {i : Int} (plain : ∀ c ∈ cs, isDelimiter c = false)
    (value : maskValue? cs = some i) : Spells ('#' :: 'o' :: cs) [.mask i] := by
  intro items enclosing
  refine ⟨⟨.mask cs, items, enclosing⟩, ?_, by simp [Reader.settle, Reader.push, value]⟩
  exact run_undelimited (.inr rfl) plain [] items enclosing

theorem spells_octal (i : Int) : Spells (Arg.octal i).toList [.mask i] := by
  have plain {zeros n : Nat} : ∀ c ∈ paddedDigits zeros n, isDelimiter c = false :=
    fun c hc => not_isDelimiter_of_isOctalDigit (isOctalDigit_of_mem_paddedDigits hc)
  by_cases negative : i < 0
  · have printed : (Arg.octal i).toList = '#' :: 'o' :: '-' ::
        paddedDigits (4 - "-".length - (Nat.toDigits 8 i.natAbs).length) i.natAbs := by
      simp [Arg.octal, negative, paddedDigits]
    rw [printed]
    apply spells_mask
    · intro c hc
      rcases List.mem_cons.mp hc with rfl | hc
      · decide
      · exact plain c hc
    · have absolute : -(i.natAbs : Int) = i := by omega
      rw [maskValue?, octalValue?_paddedDigits, Option.map_some, absolute]
  · have printed : (Arg.octal i).toList = '#' :: 'o' ::
        paddedDigits (4 - (Nat.toDigits 8 i.natAbs).length) i.natAbs := by
      simp [Arg.octal, negative, paddedDigits]
    have absolute : (i.natAbs : Int) = i := by omega
    rw [printed]
    exact spells_mask plain (by rw [maskValue?_paddedDigits, absolute])

end SandboxProfile.Form
