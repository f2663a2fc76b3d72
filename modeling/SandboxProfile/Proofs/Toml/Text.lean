import SandboxProfile.Toml.Writer
import SandboxProfile.Proofs.Toml.Scan

/-! Texts between double quotes, and keys. Whatever the text is, it is read back from its quoted
form, and as a key from what is written for it. -/
namespace SandboxProfile.Toml
variable {cs middle rest before text : List Char}

theorem hexFixed_low : ∀ n < 128, (Text.hexFixed 4 n).length = 4 ∧
    ((Text.hexFixed 4 n).mapM hexValue?).map (List.foldl (fun n d => 16 * n + d) 0) = some n := by
  decide

/-- A control character is read from the digits of its code point. -/
theorem codePoint_hexFixed {c : Char} (low : c.toNat < 128) (rest : List Char) :
    Reads (codePoint 4) (Text.hexFixed 4 c.toNat ++ rest) c rest := by
  obtain ⟨four, value⟩ := hexFixed_low c.toNat low
  obtain ⟨values, digits, sum⟩ := Option.map_eq_some_iff.mp value
  refine (Reads.get _).bind ?_
  dsimp only
  rw [List.take_left' four, digits]
  dsimp only
  rw [sum, four, if_neg (by simp; omega)]
  refine (Reads.skip 4 _).bind ?_
  rw [List.drop_left' four, Char.ofNat_toNat]
  exact Reads.pure c rest

theorem escapes_of_shortEscapes {c mark : Char} (short : shortEscapes.lookup c = some mark) :
    escapes.lookup mark = some c := by
  obtain ⟨front, back, listed, -⟩ := List.lookup_eq_some_iff.mp short
  have member : (c, mark) ∈ shortEscapes := listed ▸ List.mem_append_right front List.mem_cons_self
  simp only [shortEscapes, List.mem_cons, Prod.mk.injEq, List.not_mem_nil, or_false] at member
  rcases member with ⟨rfl, rfl⟩ | ⟨rfl, rfl⟩ | ⟨rfl, rfl⟩ | ⟨rfl, rfl⟩ | ⟨rfl, rfl⟩ | ⟨rfl, rfl⟩ <;>
    rfl

/-- An escape gives what it stands for, and the text goes on behind it. -/
theorem basicRest_escape {c : Char} {fuel : Nat} (escaped : Reads (escape false) cs [c] rest)
    (read : Reads (basicRest false fuel (before ++ [c])) rest text middle) :
    Reads (basicRest false (fuel + 1) before) ('\\' :: cs) text middle := by
  unfold basicRest
  refine Reads.passing rfl ((Reads.peek _).bind ?_)
  exact (Reads.skip 1 _).bind (escaped.bind read)

theorem escape_short {c mark : Char} (short : shortEscapes.lookup c = some mark) :
    Reads (escape false) (mark :: rest) [c] rest := by
  unfold escape
  refine (Reads.peek _).bind ?_
  refine (Reads.skip 1 _).bind ?_
  rw [escapes_of_shortEscapes short]
  exact Reads.pure _ _

theorem escape_hex {c : Char} (low : c.toNat < 128) :
    Reads (escape false) ('u' :: (Text.hexFixed 4 c.toNat ++ rest)) [c] rest := by
  unfold escape
  refine (Reads.peek _).bind ?_
  refine (Reads.skip 1 _).bind ?_
  exact (codePoint_hexFixed low rest).bind (Reads.pure [c] rest)

/-- An escaped character is read as this character, and it does not end the text. -/
theorem basicRest_escapedChar (c : Char) {fuel : Nat}
    (read : Reads (basicRest false fuel (before ++ [c])) rest text middle) :
    Reads (basicRest false (fuel + 1) before) (escapedChar c ++ rest) text middle := by
  unfold escapedChar
  cases short : shortEscapes.lookup c with
  | some mark => exact basicRest_escape (escape_short short) read
  | none =>
    by_cases forbidden : isForbidden c = true
    · have low : c.toNat < 128 := by
        simp only [isForbidden, isControl, Bool.and_eq_true, Bool.or_eq_true, decide_eq_true_eq,
          beq_iff_eq] at forbidden
        omega
      rw [if_pos forbidden]
      exact basicRest_escape (escape_hex low) read
    · have noQuote : c ≠ '"' := by
        rintro rfl
        contradiction
      have noBackslash : c ≠ '\\' := by
        rintro rfl
        contradiction
      rw [if_neg forbidden]
      unfold basicRest
      refine Reads.passing (by simp [List.isPrefixOf, noQuote.symm]) ((Reads.peek _).bind ?_)
      dsimp only [List.singleton_append, List.head?_cons]
      split
      · contradiction
      · next same => exact absurd (Option.some.inj same) noBackslash
      · next d _ same =>
        obtain rfl := Option.some.inj same
        rw [if_neg Bool.false_ne_true, if_neg forbidden]
        exact (Reads.skip 1 _).bind read

/-- An escaped character begins with something else than a quote. -/
theorem exists_escapedChar (c : Char) : ∃ d ds, escapedChar c = d :: ds ∧ d ≠ '"' := by
  unfold escapedChar
  cases short : shortEscapes.lookup c with
  | some mark => exact ⟨'\\', [mark], rfl, by decide⟩
  | none =>
    dsimp only
    split
    · exact ⟨'\\', _, rfl, by decide⟩
    · refine ⟨c, [], rfl, ?_⟩
      rintro rfl
      contradiction

theorem length_le_escaped (cs : List Char) : cs.length ≤ (cs.flatMap escapedChar).length := by
  induction cs with
  | nil => exact Nat.le_refl 0
  | cons c cs ih =>
    obtain ⟨d, ds, escaped, -⟩ := exists_escapedChar c
    rw [List.flatMap_cons, escaped]
    simp only [List.length_cons, List.length_append]
    omega

/-- By induction on the characters; each of them takes one step. -/
theorem basicRest_escaped {cs : List Char} {fuel : Nat} (enough : cs.length < fuel)
    (before rest : List Char) :
    Reads (basicRest false fuel before) (cs.flatMap escapedChar ++ '"' :: rest) (before ++ cs)
      rest := by
  induction cs generalizing fuel before with
  | nil =>
    obtain ⟨fuel, rfl⟩ := Nat.exists_eq_succ_of_ne_zero (Nat.ne_of_gt enough)
    rw [List.append_nil]
    unfold basicRest
    exact Reads.taking (Reads.pure before rest)
  | cons c cs ih =>
    obtain ⟨fuel, rfl⟩ := Nat.exists_eq_succ_of_ne_zero (Nat.ne_of_gt (Nat.zero_lt_of_lt enough))
    have read := ih (Nat.lt_of_succ_lt_succ enough) (before ++ [c])
    rw [List.append_assoc, List.singleton_append] at read
    rw [List.flatMap_cons, List.append_assoc]
    exact basicRest_escapedChar c read

theorem basicText_escaped (cs rest : List Char) :
    Reads (basicText false) (cs.flatMap escapedChar ++ '"' :: rest) cs rest := by
  refine (Reads.get _).bind (basicRest_escaped ?_ [] rest)
  have longer := length_le_escaped cs
  simp only [List.length_append, List.length_cons]
  omega

theorem quotedText_toList (s : String) :
    (quotedText s).toList = '"' :: (s.toList.flatMap escapedChar ++ ['"']) := by
  simp [quotedText]

/-- The quotes of an empty text are no beginning of a text of several lines. -/
theorem not_three_quotes (stop : ∀ c ∈ rest.head?, c ≠ '"') :
    "\"\"\"".toList.isPrefixOf ('"' :: (cs.flatMap escapedChar ++ '"' :: rest)) = false := by
  show ['"', '"', '"'].isPrefixOf _ = false
  cases cs with
  | nil =>
    cases rest with
    | nil => rfl
    | cons c rest => simp [List.isPrefixOf, (stop c rfl).symm]
  | cons c cs =>
    obtain ⟨d, ds, escaped, noQuote⟩ := exists_escapedChar c
    simp [List.isPrefixOf, escaped, noQuote.symm]

/-- A quoted text is read as the text, unless a further quote stands behind it. -/
theorem text?_quotedText (s : String) (stop : ∀ c ∈ rest.head?, c ≠ '"') :
    Reads text? ((quotedText s).toList ++ rest) (some s) rest := by
  rw [quotedText_toList, List.cons_append, List.append_assoc, List.singleton_append]
  unfold text?
  refine Reads.passing (not_three_quotes stop) ?_
  have read := ((basicText_escaped s.toList rest).map String.ofList).map some
  rw [String.ofList_toList] at read
  exact Reads.taking read

/-! ### No carriage returns -/

theorem escapedChar_unbroken (c : Char) : '\r' ∉ escapedChar c := by
  unfold escapedChar
  cases short : shortEscapes.lookup c with
  | some mark =>
    have marks : ∀ escape ∈ shortEscapes, '\r' ∉ ['\\', escape.2] := by simp [shortEscapes]
    obtain ⟨front, back, listed, -⟩ := List.lookup_eq_some_iff.mp short
    exact marks (c, mark) (listed ▸ List.mem_append_right front List.mem_cons_self)
  | none =>
    have digits : ∀ n < 128, '\r' ∉ '\\' :: 'u' :: Text.hexFixed 4 n := by decide
    dsimp only
    split
    · next forbidden =>
      simp only [isForbidden, isControl, Bool.and_eq_true, Bool.or_eq_true, decide_eq_true_eq,
        beq_iff_eq] at forbidden
      exact digits c.toNat (by omega)
    · rw [List.mem_singleton]
      rintro rfl
      contradiction

theorem quotedText_unbroken (s : String) : '\r' ∉ (quotedText s).toList := by
  rw [quotedText_toList]
  simp only [List.mem_cons, List.mem_append, List.mem_flatMap, List.not_mem_nil, or_false, not_or]
  refine ⟨by decide, ?_, by decide⟩
  rintro ⟨c, -, member⟩
  exact escapedChar_unbroken c member

/-! ### Keys -/

/-- A key is written as it is, if it can be, and between quotes otherwise. -/
theorem keyText_cases (s : String) :
    (keyText s = s ∧ s.toList ≠ [] ∧ ∀ c ∈ s.toList, isBareKeyChar c = true) ∨
      keyText s = quotedText s := by
  unfold keyText
  split
  · next bare =>
    rw [Bool.and_eq_true, List.all_eq_true] at bare
    refine .inl ⟨rfl, ?_, bare.2⟩
    intro empty
    simp [String.toList_eq_nil_iff.mp empty] at bare
  · exact .inr rfl

/-- What is written for a key begins a statement, and it is no bracket. -/
theorem exists_keyText (s : String) : ∃ c cs, (keyText s).toList = c :: cs ∧
    (isBareKeyChar c = true ∨ c = '"') := by
  rcases keyText_cases s with ⟨same, more, bare⟩ | quoted
  · obtain ⟨c, cs, first⟩ := List.exists_cons_of_ne_nil more
    refine ⟨c, cs, ?_, .inl (bare c (first ▸ List.mem_cons_self))⟩
    rw [same, first]
  · exact ⟨'"', _, quoted ▸ quotedText_toList s, .inr rfl⟩

theorem keyPart_keyText (s : String) (stop : ∀ c ∈ rest.head?, isBareKeyChar c = false) :
    Reads keyPart ((keyText s).toList ++ rest) s rest := by
  rcases keyText_cases s with ⟨same, more, bare⟩ | quoted
  · rw [same]
    refine (Reads.takeWhile bare stop).bind ?_
    obtain ⟨c, cs, first⟩ := List.exists_cons_of_ne_nil more
    rw [first]
    show Reads (pure (String.ofList (c :: cs))) rest s rest
    rw [← first, String.ofList_toList]
    exact Reads.pure s rest
  · rw [quoted, quotedText_toList, List.cons_append, List.append_assoc, List.singleton_append]
    refine (Reads.takeNone (by simp; decide)).bind ?_
    refine Reads.passing rfl ?_
    have read := (basicText_escaped s.toList rest).map String.ofList
    rw [String.ofList_toList] at read
    exact Reads.taking read

theorem isBareKeyChar_of_isSpace {c : Char} (space : isSpace c = true) :
    isBareKeyChar c = false := by
  simp only [isSpace, Bool.or_eq_true, decide_eq_true_eq] at space
  rcases space with rfl | rfl <;> decide

/-- A key of one part is read with the spaces behind it. -/
theorem key_keyText (s : String) {spaces : List Char} (blank : ∀ c ∈ spaces, isSpace c = true)
    (stop : ∀ c ∈ rest.head?, isBareKeyChar c = false ∧ isSpace c = false ∧ c ≠ '.') :
    Reads key ((keyText s).toList ++ (spaces ++ rest)) [s] rest := by
  have spaced : ∀ c ∈ (spaces ++ rest).head?, isBareKeyChar c = false := by
    intro c first
    cases spaces with
    | nil => exact (stop c first).1
    | cons d spaces =>
      obtain rfl := Option.some.inj first
      exact isBareKeyChar_of_isSpace (blank _ List.mem_cons_self)
  have noDot : ".".toList.isPrefixOf rest = false := by
    cases rest with
    | nil => rfl
    | cons c rest => simp [List.isPrefixOf, (stop c rfl).2.2.symm]
  refine (Reads.get _).bind ?_
  unfold keyParts
  refine (keyPart_keyText s spaced).bind ?_
  refine (Reads.skipWhile blank fun c first => (stop c first).2.1).bind ?_
  exact Reads.passing noDot (Reads.pure [s] rest)

theorem keyText_unbroken (s : String) : '\r' ∉ (keyText s).toList := by
  rcases keyText_cases s with ⟨same, -, bare⟩ | quoted
  · rw [same]
    exact fun member => absurd (bare _ member) (by decide)
  · rw [quoted]
    exact quotedText_unbroken s

end SandboxProfile.Toml
