import SandboxProfile.Toml.Document
import SandboxProfile.Proofs.Toml.Text

/-! Values behind a key. Texts, lists of texts and single digits are read back from what is
written for them, wherever the line ends behind it. -/
namespace SandboxProfile.Toml
variable {cs front : List Char}

/-- A text stands for a value where a line ends behind it. -/
structure Denotes (cs : List Char) (v : Value) : Prop where
  read : ∀ fuel rest, cs.length < fuel → Reads (value fuel) (cs ++ '\n' :: rest) v ('\n' :: rest)
  begins : ∀ c ∈ cs.head?, isSpace c = false
  unbroken : '\r' ∉ cs

/-! ### Texts -/

theorem value_quotedText (s : String) (fuel : Nat) (rest : List Char)
    (stop : ∀ c ∈ rest.head?, c ≠ '"') :
    Reads (value (fuel + 1)) ((quotedText s).toList ++ rest) (.text s) rest := by
  have read := text?_quotedText s stop
  unfold value
  rw [quotedText_toList] at read ⊢
  exact Reads.passing rfl (Reads.passing rfl (read.bind (Reads.pure _ rest)))

theorem denotes_quotedText (s : String) : Denotes (quotedText s).toList (.text s) := by
  refine ⟨fun fuel rest enough => ?_, by simp [quotedText_toList, isSpace], quotedText_unbroken s⟩
  obtain ⟨fuel, rfl⟩ := Nat.exists_eq_succ_of_ne_zero (Nat.ne_of_gt (Nat.zero_lt_of_lt enough))
  exact value_quotedText s fuel _ (by simp)

/-! ### Lists of texts -/

/-- Spaces and line breaks are passed over. -/
theorem gaps_read (front rest : List Char) (gap : ∀ c ∈ front, (isSpace c || c = '\n') = true)
    (stop : ∀ c ∈ rest.head?, (isSpace c || c = '\n') = false ∧ c ≠ '#') :
    Reads Scan.gaps (front ++ rest) () rest := by
  refine (Reads.get _).bind ?_
  unfold Scan.skipGaps
  refine (Reads.skipWhile gap fun c next => (stop c next).1).bind ?_
  refine (Reads.peek rest).bind ?_
  have noComment : ¬(rest.head? == some '#') = true := fun begins =>
    (stop '#' (eq_of_beq begins)).2 rfl
  rw [if_neg noComment]
  exact Reads.pure () rest

/-- The lines of the items of a list. -/
def itemLines (texts : List String) : List Char :=
  texts.flatMap fun s => "    ".toList ++ ((quotedText s).toList ++ ",\n".toList)

/-- By induction on the items: in front of each of them there is a gap, and behind it a
comma. -/
theorem items_read {texts : List String} {fuel : Nat} (enough : texts.length < fuel)
    (gap : ∀ c ∈ front, (isSpace c || c = '\n') = true) (rest : List Char) :
    ∃ middle, Reads Scan.gaps (front ++ (itemLines texts ++ ']' :: rest)) () middle ∧
      Reads (items fuel) middle (texts.map .text) rest := by
  induction texts generalizing front fuel with
  | nil =>
    obtain ⟨fuel, rfl⟩ := Nat.exists_eq_succ_of_ne_zero (Nat.ne_of_gt enough)
    refine ⟨']' :: rest, gaps_read front _ gap (by simp [itemLines, isSpace]), ?_⟩
    unfold items
    exact Reads.taking (Reads.pure [] rest)
  | cons s texts ih =>
    obtain ⟨fuel, rfl⟩ := Nat.exists_eq_succ_of_ne_zero (Nat.ne_of_gt (Nat.zero_lt_of_lt enough))
    have fewer : texts.length < fuel := Nat.lt_of_succ_lt_succ enough
    have lineBreak : ∀ c ∈ ['\n'], (isSpace c || c = '\n') = true := by simp
    obtain ⟨next, nextGap, others⟩ := ih fewer lineBreak
    obtain ⟨fuel, rfl⟩ := Nat.exists_eq_succ_of_ne_zero (Nat.ne_of_gt (Nat.zero_lt_of_lt fewer))
    have first := value_quotedText s fuel (',' :: '\n' :: (itemLines texts ++ ']' :: rest)) (by simp)
    refine ⟨(quotedText s).toList ++ ',' :: '\n' :: (itemLines texts ++ ']' :: rest), ?_, ?_⟩
    · have spaces : ∀ c ∈ front ++ "    ".toList, (isSpace c || c = '\n') = true := by
        rw [List.forall_mem_append]
        exact ⟨gap, by simp [isSpace]⟩
      have indented := gaps_read _
        ((quotedText s).toList ++ ',' :: '\n' :: (itemLines texts ++ ']' :: rest)) spaces
        (by rw [quotedText_toList]; simp [isSpace])
      simpa [itemLines] using indented
    · unfold items
      refine Reads.passing (by rw [quotedText_toList]; rfl) (first.bind ?_)
      refine (gaps_read [] _ (by simp) (by simp [isSpace])).bind ?_
      refine Reads.passing rfl ?_
      refine (Reads.expect "," _).bind (nextGap.bind ?_)
      exact others.bind (Reads.pure _ rest)

theorem length_le_itemLines (texts : List String) : texts.length ≤ (itemLines texts).length := by
  induction texts with
  | nil => exact Nat.le_refl 0
  | cons s texts ih =>
    simp only [itemLines, List.flatMap_cons, List.length_append, List.length_cons] at ih ⊢
    have : "    ".toList.length = 4 := rfl
    omega

theorem itemLines_unbroken (texts : List String) : '\r' ∉ itemLines texts := by
  intro member
  obtain ⟨s, -, member⟩ := List.mem_flatMap.mp member
  rw [List.mem_append, List.mem_append] at member
  rcases member with indented | quoted | ended
  · exact absurd indented (by decide)
  · exact quotedText_unbroken s quoted
  · exact absurd ended (by decide)

theorem denotes_itemLines (texts : List String)
    (gap : ∀ c ∈ front, (isSpace c || c = '\n') = true) :
    Denotes ('[' :: (front ++ (itemLines texts ++ [']']))) (.list (texts.map .text)) := by
  have unbroken : '\r' ∉ '[' :: (front ++ (itemLines texts ++ [']'])) := by
    simp only [List.mem_cons, List.mem_append, List.not_mem_nil, or_false, not_or]
    exact ⟨by decide, fun member => absurd (gap _ member) (by decide), itemLines_unbroken texts,
      by decide⟩
  refine ⟨fun fuel rest enough => ?_, by simp [isSpace], unbroken⟩
  obtain ⟨fuel, rfl⟩ := Nat.exists_eq_succ_of_ne_zero (Nat.ne_of_gt (Nat.zero_lt_of_lt enough))
  have fewer : texts.length < fuel := by
    have longer := length_le_itemLines texts
    simp only [List.length_cons, List.length_append] at enough
    omega
  obtain ⟨middle, passed, read⟩ := items_read fewer gap ('\n' :: rest)
  rw [List.cons_append, List.append_assoc, List.append_assoc]
  unfold value
  refine Reads.taking ?_
  exact passed.bind (read.map Value.list)

/-! ### Digits -/

/-- A mark that begins otherwise than with a digit does not come next at one. -/
theorem miss_digit {mark : String} {c digit : Char} (decimal : isDecimal digit = true)
    (shape : mark.toList = c :: front) (other : isDecimal c = false) :
    mark.toList.isPrefixOf (digit :: cs) = false := by
  have different : c ≠ digit := by
    rintro rfl
    rw [other] at decimal
    contradiction
  simp [shape, List.isPrefixOf, different]

theorem text?_of_digit {digit : Char} (decimal : isDecimal digit = true) :
    Reads text? (digit :: cs) none (digit :: cs) := by
  unfold text?
  refine Reads.passing (miss_digit decimal rfl (by decide)) ?_
  refine Reads.passing (miss_digit decimal rfl (by decide)) ?_
  refine Reads.passing (miss_digit decimal rfl (by decide)) ?_
  refine Reads.passing (miss_digit decimal rfl (by decide)) ?_
  exact Reads.pure none _

theorem truth?_of_digit {digit : Char} (decimal : isDecimal digit = true) :
    Reads truth? (digit :: cs) none (digit :: cs) := by
  unfold truth?
  refine Reads.passing (miss_digit decimal rfl (by decide)) ?_
  refine Reads.passing (miss_digit decimal rfl (by decide)) ?_
  exact Reads.pure none _

theorem basedInteger?_of_line (digit : Char) (rest : List Char) :
    Reads basedInteger? (digit :: '\n' :: rest) none (digit :: '\n' :: rest) := by
  refine (Reads.get _).bind ?_
  split
  · next same =>
    obtain ⟨rfl, rfl⟩ := List.cons.inj (List.cons.inj same).2
    exact Reads.pure none _
  · exact Reads.pure none _

theorem field?_of_line {width least most : Nat} (digit : Char) (rest : List Char)
    (more : 2 ≤ width) : field? width least most (digit :: '\n' :: rest) = none := by
  obtain ⟨width, rfl⟩ := Nat.exists_eq_add_of_le' more
  simp [field?, isDecimal]

/-- One digit is too short for a date or a time. -/
theorem timeValue?_of_line (digit : Char) (rest : List Char) :
    Reads timeValue? (digit :: '\n' :: rest) none (digit :: '\n' :: rest) := by
  have noDate : moment? (digit :: '\n' :: rest) = none := by
    rw [moment?, date?, field?_of_line digit rest (by decide)]
    rfl
  have noTime : clock? (digit :: '\n' :: rest) = none := by
    rw [clock?, field?_of_line digit rest (by decide)]
    rfl
  refine (Reads.get _).bind ?_
  rw [noDate]
  refine (Reads.get _).bind ?_
  rw [noTime]
  exact Reads.pure none _

theorem firstOf_found {x : Scan (Option Value)} {others : List (Scan (Option Value))} {v : Value}
    {rest : List Char} (found : Reads x cs (some v) rest) :
    Reads (firstOf (x :: others)) cs v rest :=
  found.bind (Reads.pure v rest)

theorem firstOf_passed {x : Scan (Option Value)} {others : List (Scan (Option Value))} {v : Value}
    {rest : List Char} (passed : Reads x cs none cs) (found : Reads (firstOf others) cs v rest) :
    Reads (firstOf (x :: others)) cs v rest :=
  passed.bind found

theorem decimal?_of_line {n : Nat} (one : n < 10) (rest : List Char) :
    Reads decimal? (Nat.digitChar n :: '\n' :: rest) (some (.int n)) ('\n' :: rest) := by
  match n, one with
  | 0, _ | 1, _ | 2, _ | 3, _ | 4, _ | 5, _ | 6, _ | 7, _ | 8, _ | 9, _ => rfl

theorem digitChar_class : ∀ n < 10, isDecimal (Nat.digitChar n) = true ∧
    isSpace (Nat.digitChar n) = false ∧ Nat.digitChar n ≠ '\r' := by
  decide

theorem denotes_digit {n : Nat} (one : n < 10) : Denotes [Nat.digitChar n] (.int n) := by
  obtain ⟨digit, noSpace, other⟩ := digitChar_class n one
  refine ⟨fun fuel rest enough => ?_, by simpa using noSpace,
    fun member => other (List.mem_singleton.mp member).symm⟩
  obtain ⟨fuel, rfl⟩ := Nat.exists_eq_succ_of_ne_zero (Nat.ne_of_gt (Nat.zero_lt_of_lt enough))
  unfold value
  refine Reads.passing (miss_digit digit rfl (by decide)) ?_
  refine Reads.passing (miss_digit digit rfl (by decide)) ?_
  refine (text?_of_digit digit).bind ?_
  refine firstOf_passed (truth?_of_digit digit) ?_
  refine firstOf_passed (timeValue?_of_line _ rest) ?_
  refine firstOf_passed (basedInteger?_of_line _ rest) ?_
  exact firstOf_found (decimal?_of_line one rest)

/-! ### What is written -/

/-- The values that are read back. -/
inductive Plain : Value → Prop
  | text (s : String) : Plain (.text s)
  | texts (texts : List String) : Plain (.list (texts.map .text))
  | digit {n : Nat} (one : n < 10) : Plain (.int n)

theorem joinWith_toList (mark : String) {texts : List String} (more : texts ≠ []) :
    (Text.joinWith mark texts ++ mark).toList =
      texts.flatMap fun s => s.toList ++ mark.toList := by
  induction texts with
  | nil => contradiction
  | cons s texts ih =>
    cases texts with
    | nil => simp [Text.joinWith]
    | cons t texts =>
      have others := ih (List.cons_ne_nil t texts)
      rw [List.flatMap_cons, ← others]
      simp [Text.joinWith]

theorem itemTexts?_texts (depth : Nat) (texts : List String) :
    itemTexts? depth (texts.map .text) = some (texts.map quotedText) := by
  induction texts with
  | nil => rfl
  | cons s texts ih =>
    rw [List.map_cons, itemTexts?, valueText?, ih]
    rfl

theorem valueText?_texts (texts : List String) : ∃ front s,
    valueText? 0 (.list (texts.map .text)) = some s ∧ (∀ c ∈ front, (isSpace c || c = '\n') = true) ∧
      s.toList = '[' :: (front ++ (itemLines texts ++ [']'])) := by
  rw [valueText?, itemTexts?_texts]
  cases texts with
  | nil => exact ⟨[], _, rfl, by simp, rfl⟩
  | cons s texts =>
    refine ⟨['\n'], _, rfl, by simp, ?_⟩
    have lines : (Text.joinWith ",\n" (((s :: texts).map quotedText).map (indent 1 ++ ·)) ++
        ",\n").toList = itemLines (s :: texts) := by
      rw [joinWith_toList ",\n" (by simp), List.map_map, List.flatMap_map]
      simp [itemLines, indent]
    rw [← lines]
    simp [indent]

theorem toString_digit : ∀ n < 10, (toString n).toList = [Nat.digitChar n] := by
  decide

/-- What is written for a plain value stands for it. -/
theorem Plain.exists_text {v : Value} (plain : Plain v) :
    ∃ s, valueText? 0 v = some s ∧ Denotes s.toList v := by
  cases plain with
  | text s => exact ⟨quotedText s, rfl, denotes_quotedText s⟩
  | texts texts =>
    obtain ⟨front, s, written, gap, parts⟩ := valueText?_texts texts
    exact ⟨s, written, parts ▸ denotes_itemLines texts gap⟩
  | @digit n one =>
    have digit := toString_digit n one
    have short : ¬(toString n).length > Text.digitLimit := by
      rw [← String.length_toList, digit]
      simp [Text.digitLimit]
    refine ⟨toString n, ?_, digit ▸ denotes_digit one⟩
    rw [valueText?, integerText?, Int.natAbs_natCast, if_neg short, if_neg (by omega)]

end SandboxProfile.Toml
