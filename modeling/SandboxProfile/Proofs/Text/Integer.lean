import SandboxProfile.Text.Integer
import SandboxProfile.Proofs.Text.Trimming
import Mathlib.Tactic.Ring

/-! Integers and their texts. A text stands for an integer if it has white space around it, at most
one sign, and decimal digits of any script with at most one underscore between two of them. In the
plain form there are blanks around it, at most a minus sign, and ASCII digits. The decimal text of
an integer is of both forms, and an integer that was read has no more digits than its text. -/
namespace SandboxProfile.Text
variable {c : Char} {cs body sign : List Char} {s : String} {i : Int} {negative : Bool}
  {digits : List Nat}

/-! ### Digits among other characters -/

/-- The code points of the blanks. -/
def blankPoints : List Nat :=
  [9, 10, 11, 12, 13, 0x1C, 0x1D, 0x1E, 0x1F, 0x20, 0x85, 0xA0, 0x1680, 0x2000, 0x2001, 0x2002,
    0x2003, 0x2004, 0x2005, 0x2006, 0x2007, 0x2008, 0x2009, 0x200A, 0x2028, 0x2029, 0x202F, 0x205F,
    0x3000]

theorem mem_blankPoints (blank : isBlank c = true) : c.toNat ∈ blankPoints := by
  simp only [isBlank, isWhiteSpace, Bool.or_eq_true, Bool.and_eq_true, decide_eq_true_eq,
    beq_iff_eq] at blank
  simp only [blankPoints, List.mem_cons, List.not_mem_nil, or_false]
  omega

theorem not_isBlank_of_isDigit (digit : isDigit c = true) : isBlank c = false := by
  have none : ∀ n ∈ blankPoints, isDigit (Char.ofNat n) = false := by decide
  refine Bool.eq_false_iff.mpr fun blank => ?_
  have other := none c.toNat (mem_blankPoints blank)
  rw [Char.ofNat_toNat, digit] at other
  contradiction

theorem not_isWhiteSpace_of_isDigit (digit : isDigit c = true) : isWhiteSpace c = false :=
  Bool.eq_false_iff.mpr fun space =>
    absurd (isBlank_of_isWhiteSpace space) (Bool.eq_false_iff.mp (not_isBlank_of_isDigit digit))

theorem takeSign_of_digit (digit : isDigit c = true) : takeSign (c :: cs) = (false, c :: cs) := by
  unfold takeSign
  split
  · next same =>
    obtain ⟨rfl, -⟩ := List.cons.inj same
    contradiction
  · next same =>
    obtain ⟨rfl, -⟩ := List.cons.inj same
    contradiction
  · rfl

/-! ### The grammar -/

/-- Digits with at most one underscore between two of them, and the values of the digits. -/
inductive Digits : List Char → List Nat → Prop
  | last {c : Char} {d : Nat} : digitValue? c = some d → Digits [c] [d]
  | next {c : Char} {d : Nat} {cs : List Char} {digits : List Nat} :
      digitValue? c = some d → Digits cs digits → Digits (c :: cs) (d :: digits)
  | apart {c : Char} {d : Nat} {cs : List Char} {digits : List Nat} :
      digitValue? c = some d → Digits cs digits → Digits (c :: '_' :: cs) (d :: digits)

/-- What may stand in front of the digits. -/
inductive Sign : List Char → Bool → Prop
  | missing : Sign [] false
  | plus : Sign ['+'] false
  | minus : Sign ['-'] true

/-- The texts that stand for an integer. -/
inductive Denotes (s : String) : Int → Prop
  | intro {sign body : List Char} {negative : Bool} {digits : List Nat}
      (around : Surrounded isWhiteSpace (sign ++ body) s.toList) (signed : Sign sign negative)
      (spelled : Digits body digits) (bounded : digits.length ≤ digitLimit) :
      Denotes s (applySign negative (ofDigits digits))

theorem isDigit_of_digitValue? {d : Nat} (value : digitValue? c = some d) : isDigit c = true := by
  rw [isDigit, value]
  rfl

theorem digitValue?_lt {d : Nat} (value : digitValue? c = some d) : d < 10 := by
  obtain ⟨start, found, rfl⟩ := Option.map_eq_some_iff.mp value
  have within := List.find?_some found
  simp only [Bool.and_eq_true, decide_eq_true_eq] at within
  omega

theorem Digits.exists_first (spelled : Digits cs digits) :
    ∃ c rest, cs = c :: rest ∧ isDigit c = true := by
  cases spelled with
  | last value => exact ⟨_, _, rfl, isDigit_of_digitValue? value⟩
  | next value _ => exact ⟨_, _, rfl, isDigit_of_digitValue? value⟩
  | apart value _ => exact ⟨_, _, rfl, isDigit_of_digitValue? value⟩

theorem Digits.exists_last (spelled : Digits cs digits) :
    ∃ c, cs.getLast? = some c ∧ isDigit c = true := by
  induction spelled with
  | last value => exact ⟨_, rfl, isDigit_of_digitValue? value⟩
  | next _ others ih =>
    obtain ⟨c, last, digit⟩ := ih
    exact ⟨c, by rw [List.getLast?_cons, last]; rfl, digit⟩
  | apart _ others ih =>
    obtain ⟨c, last, digit⟩ := ih
    exact ⟨c, by rw [List.getLast?_cons, List.getLast?_cons, last]; rfl, digit⟩

theorem Digits.lt_ten (spelled : Digits cs digits) : ∀ d ∈ digits, d < 10 := by
  induction spelled with
  | last value =>
    intro d member
    obtain rfl := List.mem_singleton.mp member
    exact digitValue?_lt value
  | next value _ ih => exact List.forall_mem_cons.mpr ⟨digitValue?_lt value, ih⟩
  | apart value _ ih => exact List.forall_mem_cons.mpr ⟨digitValue?_lt value, ih⟩

theorem Digits.length_pos (spelled : Digits cs digits) : 0 < digits.length := by
  cases spelled <;> exact Nat.succ_pos _

/-- Nothing is left to choose in reading digits. An underscore is no digit, so that one behind a
digit can only be a separator. -/
theorem separatedDigits?_eq_some_iff : separatedDigits? cs = some digits ↔ Digits cs digits := by
  constructor
  · intro read
    induction cs using separatedDigits?.induct generalizing digits with
    | case1 => contradiction
    | case2 c =>
      obtain ⟨d, value, rfl⟩ := Option.map_eq_some_iff.mp read
      exact .last value
    | case3 c rest ih =>
      rw [separatedDigits?] at read
      obtain ⟨d, value, read⟩ := Option.bind_eq_some_iff.mp read
      obtain ⟨others, behind, read⟩ := Option.bind_eq_some_iff.mp read
      obtain rfl := Option.some.inj read
      exact .apart value (ih behind)
    | case4 c rest more other ih =>
      rw [separatedDigits?.eq_4 c rest more other] at read
      obtain ⟨d, value, read⟩ := Option.bind_eq_some_iff.mp read
      obtain ⟨others, behind, read⟩ := Option.bind_eq_some_iff.mp read
      obtain rfl := Option.some.inj read
      exact .next value (ih behind)
  · intro spelled
    induction spelled with
    | last value => rw [separatedDigits?, value]; rfl
    | @next c d cs digits value others ih =>
      obtain ⟨first, rest, rfl, digit⟩ := others.exists_first
      rw [separatedDigits?.eq_4 c (first :: rest) (List.cons_ne_nil _ _), value, ih]
      · rfl
      · intro rest' same
        obtain ⟨rfl, -⟩ := List.cons.inj same
        contradiction
    | apart value _ ih => rw [separatedDigits?, value, ih]; rfl

theorem exists_sign (cs : List Char) :
    ∃ sign, Sign sign (takeSign cs).1 ∧ cs = sign ++ (takeSign cs).2 := by
  unfold takeSign
  split
  · exact ⟨_, .minus, rfl⟩
  · exact ⟨_, .plus, rfl⟩
  · exact ⟨_, .missing, rfl⟩

theorem takeSign_of_sign (signed : Sign sign negative) (spelled : Digits body digits) :
    takeSign (sign ++ body) = (negative, body) := by
  cases signed with
  | plus => rfl
  | minus => rfl
  | missing =>
    obtain ⟨c, rest, rfl, digit⟩ := spelled.exists_first
    exact takeSign_of_digit digit

theorem bare_of_digits (signed : Sign sign negative) (spelled : Digits body digits) :
    Bare isWhiteSpace (sign ++ body) where
  first := by
    intro c first
    cases signed with
    | plus => obtain rfl := Option.some.inj first; rfl
    | minus => obtain rfl := Option.some.inj first; rfl
    | missing =>
      obtain ⟨d, rest, rfl, digit⟩ := spelled.exists_first
      obtain rfl := Option.some.inj first
      exact not_isWhiteSpace_of_isDigit digit
  last := by
    intro c last
    obtain ⟨d, found, digit⟩ := spelled.exists_last
    rw [List.getLast?_append, found] at last
    obtain rfl := Option.some.inj last
    exact not_isWhiteSpace_of_isDigit digit

theorem boundedInteger_eq_ok_iff : boundedInteger negative digits = .ok i ↔
    digits.length ≤ digitLimit ∧ applySign negative (ofDigits digits) = i := by
  unfold boundedInteger
  split
  · next long => simp [Nat.not_le.mpr long]
  · next short => simp [Nat.not_lt.mp short]

theorem readInteger_eq (s : String) : readInteger s =
    match separatedDigits? (takeSign (trimList isWhiteSpace s.toList)).2 with
    | none => .error .notInteger
    | some digits => boundedInteger (takeSign (trimList isWhiteSpace s.toList)).1 digits := rfl

/-- The texts that are read as an integer are those that stand for it. -/
theorem readInteger_eq_ok_iff : readInteger s = .ok i ↔ Denotes s i := by
  constructor
  · intro read
    have around := surrounded_trimList isWhiteSpace s.toList
    obtain ⟨sign, signed, spelled⟩ := exists_sign (trimList isWhiteSpace s.toList)
    rw [readInteger_eq] at read
    split at read
    · contradiction
    · next digits found =>
      obtain ⟨bounded, rfl⟩ := boundedInteger_eq_ok_iff.mp read
      rw [spelled] at around
      exact .intro around signed (separatedDigits?_eq_some_iff.mp found) bounded
  · intro denotes
    obtain ⟨around, signed, spelled, bounded⟩ := denotes
    rw [readInteger_eq, trimList_of_surrounded around (bare_of_digits signed spelled),
      takeSign_of_sign signed spelled]
    dsimp only
    rw [separatedDigits?_eq_some_iff.mpr spelled]
    exact boundedInteger_eq_ok_iff.mpr ⟨bounded, rfl⟩

/-! ### Decimal texts -/

/-- The value of an ASCII digit. -/
def placeValue (c : Char) : Nat := c.toNat - '0'.toNat

/-- A minus sign in front of what is negative. -/
def minus (negative : Bool) : List Char := if negative then ['-'] else []

theorem sign_minus (negative : Bool) : Sign (minus negative) negative := by
  cases negative with
  | false => exact .missing
  | true => exact .minus

theorem toNat_of_isDigit (decimal : c.isDigit = true) : 48 ≤ c.toNat ∧ c.toNat ≤ 57 := by
  simp only [Char.isDigit, Bool.and_eq_true, decide_eq_true_eq] at decimal
  exact decimal

theorem digitValue?_of_decimal (decimal : c.isDigit = true) :
    digitValue? c = some (placeValue c) := by
  obtain ⟨least, greatest⟩ := toNat_of_isDigit decimal
  rw [digitValue?, decimalZeros, List.find?_cons_of_pos (by simp; omega)]
  rfl

theorem not_isBlank_of_decimal (decimal : c.isDigit = true) : isBlank c = false :=
  not_isBlank_of_isDigit (isDigit_of_digitValue? (digitValue?_of_decimal decimal))

theorem digits_of_decimal (decimal : ∀ c ∈ cs, c.isDigit = true) (some : cs ≠ []) :
    Digits cs (cs.map placeValue) := by
  induction cs with
  | nil => exact absurd rfl some
  | cons c rest ih =>
    obtain ⟨first, others⟩ := List.forall_mem_cons.mp decimal
    cases rest with
    | nil => exact .last (digitValue?_of_decimal first)
    | cons next rest => exact .next (digitValue?_of_decimal first) (ih others (List.cons_ne_nil _ _))

theorem decimal_toDigits (n : Nat) : ∀ c ∈ Nat.toDigits 10 n, c.isDigit = true :=
  fun _ => Nat.isDigit_of_mem_toDigits (by decide) (by decide)

theorem ofDigits_toDigits (n : Nat) : ofDigits ((Nat.toDigits 10 n).map placeValue) = n := by
  rw [ofDigits, List.foldl_map]
  exact Nat.ofDigitChars_toDigits (by decide) (by decide)

theorem toString_toList (i : Int) :
    (toString i).toList = minus (decide (i < 0)) ++ Nat.toDigits 10 i.natAbs := by
  rw [Int.toString_eq_repr, Int.repr_eq_if]
  by_cases negative : i < 0
  · have absolute : (-i).toNat = i.natAbs := by omega
    rw [if_neg (by omega), absolute, Nat.repr_eq_ofList_toDigits, String.toList_append,
      String.toList_ofList, String.toList_ofList, decide_eq_true negative]
    rfl
  · have absolute : i.toNat = i.natAbs := by omega
    rw [if_pos (by omega), absolute, Nat.repr_eq_ofList_toDigits, String.toList_ofList,
      decide_eq_false negative]
    rfl

theorem applySign_natAbs (i : Int) : applySign (decide (i < 0)) i.natAbs = i := by
  by_cases negative : i < 0
  · rw [decide_eq_true negative]
    show -(i.natAbs : Int) = i
    omega
  · rw [decide_eq_false negative]
    show (i.natAbs : Int) = i
    omega

/-- The decimal text of an integer with white space around it stands for the integer. -/
theorem denotes_toString (around : Surrounded isWhiteSpace (toString i).toList s.toList)
    (bounded : digitCount i ≤ digitLimit) : Denotes s i := by
  rw [toString_toList] at around
  have spelled := digits_of_decimal (decimal_toDigits i.natAbs) Nat.toDigits_ne_nil
  have short : ((Nat.toDigits 10 i.natAbs).map placeValue).length ≤ digitLimit := by
    rw [List.length_map]
    exact bounded
  have denotes := Denotes.intro around (sign_minus _) spelled short
  rw [ofDigits_toDigits, applySign_natAbs] at denotes
  exact denotes

/-! ### How long an integer is -/

theorem ofDigits_lt (small : ∀ d ∈ digits, d < 10) : ofDigits digits < 10 ^ digits.length := by
  have behind : ∀ n, digits.foldl (fun n d => 10 * n + d) n < (n + 1) * 10 ^ digits.length := by
    induction digits with
    | nil =>
      intro n
      rw [List.foldl_nil, List.length_nil, pow_zero, Nat.mul_one]
      exact Nat.lt_succ_self n
    | cons d rest ih =>
      intro n
      obtain ⟨first, others⟩ := List.forall_mem_cons.mp small
      calc (d :: rest).foldl (fun n d => 10 * n + d) n
          < (10 * n + d + 1) * 10 ^ rest.length := ih others _
        _ ≤ (10 * (n + 1)) * 10 ^ rest.length := Nat.mul_le_mul_right _ (by omega)
        _ = (n + 1) * 10 ^ (d :: rest).length := by rw [List.length_cons, pow_succ]; ring
  have whole := behind 0
  rw [Nat.zero_add, Nat.one_mul] at whole
  exact whole

theorem natAbs_applySign (negative : Bool) (n : Nat) : (applySign negative n).natAbs = n := by
  cases negative with
  | false => rfl
  | true => exact Int.natAbs_neg n

theorem digitCount_le_iff {n : Nat} (positive : 0 < n) :
    digitCount i ≤ n ↔ i.natAbs < 10 ^ n :=
  Nat.length_toDigits_le_iff (by decide) positive

/-- A power of ten has a digit more than its exponent says. -/
theorem lt_digitCount_pow {n : Nat} (positive : 0 < n) : n < digitCount (10 ^ n) := by
  apply Nat.lt_of_not_le
  intro short
  have small := (digitCount_le_iff positive).mp short
  rw [Int.natAbs_pow] at small
  exact Nat.lt_irrefl _ small

theorem Denotes.digitCount_le (denotes : Denotes s i) : digitCount i ≤ digitLimit := by
  obtain ⟨_, _, spelled, bounded⟩ := denotes
  refine le_trans ?_ bounded
  rw [digitCount_le_iff spelled.length_pos, natAbs_applySign]
  exact ofDigits_lt spelled.lt_ten

/-! ### The plain form -/

/-- A text of ASCII digits with blanks around and at most a minus sign in front of them. -/
structure Plain (s : String) (negative : Bool) (digits : List Char) : Prop where
  around : Surrounded isBlank (minus negative ++ digits) s.toList
  some : digits ≠ []
  decimal : ∀ c ∈ digits, c.isDigit = true

theorem Plain.length_le {digits : List Char} (plain : Plain s negative digits) :
    digits.length ≤ s.toList.length := by
  have whole := plain.around.length_le
  rw [List.length_append] at whole
  omega

theorem asciiDigit?_eq (c : Char) :
    asciiDigit? c = if c.isDigit then some (placeValue c) else none := rfl

theorem mapM_asciiDigit? (decimal : ∀ c ∈ cs, c.isDigit = true) :
    cs.mapM asciiDigit? = some (cs.map placeValue) := by
  induction cs with
  | nil => rfl
  | cons c rest ih =>
    obtain ⟨first, others⟩ := List.forall_mem_cons.mp decimal
    rw [List.mapM_cons, asciiDigit?_eq, if_pos first, ih others]
    rfl

theorem decimal_of_mapM (read : cs.mapM asciiDigit? = some digits) :
    ∀ c ∈ cs, c.isDigit = true := by
  induction cs generalizing digits with
  | nil => exact List.forall_mem_nil _
  | cons c rest ih =>
    rw [List.mapM_cons, asciiDigit?_eq] at read
    obtain ⟨d, value, read⟩ := Option.bind_eq_some_iff.mp read
    obtain ⟨others, behind, -⟩ := Option.bind_eq_some_iff.mp read
    refine List.forall_mem_cons.mpr ⟨?_, ih behind⟩
    by_contra other
    rw [if_neg other] at value
    contradiction

/-- There is no blank among a minus sign and digits. -/
theorem Plain.bare {digits : List Char} (plain : Plain s negative digits) :
    Bare isBlank (minus negative ++ digits) := by
  apply Bare.of_none
  intro c member
  rcases List.mem_append.mp member with sign | digit
  · cases negative with
    | true =>
      obtain rfl := List.mem_singleton.mp sign
      rfl
    | false => contradiction
  · exact not_isBlank_of_decimal (plain.decimal c digit)

/-- A minus sign in front of a numeral, and what stands behind it. -/
def takeMinus : List Char → Bool × List Char
  | '-' :: rest => (true, rest)
  | cs => (false, cs)

theorem minus_takeMinus (cs : List Char) : minus (takeMinus cs).1 ++ (takeMinus cs).2 = cs := by
  unfold takeMinus
  split <;> rfl

theorem takeMinus_minus (negative : Bool) (decimal : ∀ c ∈ body, c.isDigit = true) :
    takeMinus (minus negative ++ body) = (negative, body) := by
  cases negative with
  | true => rfl
  | false =>
    show takeMinus body = (false, body)
    unfold takeMinus
    split
    · have digit := decimal '-' List.mem_cons_self
      contradiction
    · rfl

theorem readPlainInteger_eq (s : String) : readPlainInteger s =
    match (takeMinus (trimList isBlank s.toList)).2,
      (takeMinus (trimList isBlank s.toList)).2.mapM asciiDigit? with
    | _ :: _, some digits => boundedInteger (takeMinus (trimList isBlank s.toList)).1 digits
    | _, _ => .error .notInteger := by
  have taken : takeMinus (trimList isBlank s.toList) = (match trimList isBlank s.toList with
      | '-' :: rest => (true, rest)
      | _ => (false, trimList isBlank s.toList)) := by
    unfold takeMinus
    split <;> rfl
  rw [taken]
  rfl

/-- A text in the plain form is read as the integer that its digits give, if they are not too
many. -/
theorem Plain.read {digits : List Char} (plain : Plain s negative digits) :
    readPlainInteger s = boundedInteger negative (digits.map placeValue) := by
  have values := mapM_asciiDigit? plain.decimal
  have parts := takeMinus_minus negative plain.decimal
  obtain ⟨c, rest, rfl⟩ := List.exists_cons_of_ne_nil plain.some
  rw [readPlainInteger_eq, trimList_of_surrounded plain.around plain.bare, parts]
  dsimp only
  rw [values]

/-- What is not refused as no integer is in the plain form. -/
theorem exists_plain (accepted : readPlainInteger s ≠ .error .notInteger) :
    ∃ negative digits, Plain s negative digits := by
  have around := surrounded_trimList isBlank s.toList
  have parts := minus_takeMinus (trimList isBlank s.toList)
  rw [readPlainInteger_eq] at accepted
  split at accepted
  · next c rest values read found =>
    rw [← parts] at around
    exact ⟨_, _, around, by rw [read]; exact List.cons_ne_nil c rest, decimal_of_mapM found⟩
  · exact absurd rfl accepted

theorem plain_toString (around : Surrounded isBlank (toString i).toList s.toList) :
    Plain s (decide (i < 0)) (Nat.toDigits 10 i.natAbs) :=
  ⟨toString_toList i ▸ around, Nat.toDigits_ne_nil, decimal_toDigits i.natAbs⟩

theorem bare_toString (i : Int) : Bare isBlank (toString i).toList := by
  have plain := plain_toString (s := toString i) (.refl _)
  rw [toString_toList]
  exact plain.bare

/-- The decimal text of an integer with blanks around it is in the plain form. -/
theorem readPlainInteger_toString (around : Surrounded isBlank (toString i).toList s.toList)
    (bounded : digitCount i ≤ digitLimit) : readPlainInteger s = .ok i := by
  rw [(plain_toString around).read]
  apply boundedInteger_eq_ok_iff.mpr
  constructor
  · rw [List.length_map]
    exact bounded
  · rw [ofDigits_toDigits, applySign_natAbs]

/-- Only digits of the plain form are ever too many. -/
theorem exists_plain_of_tooManyDigits {count : Nat}
    (refused : readPlainInteger s = .error (.tooManyDigits count)) :
    ∃ negative digits, Plain s negative digits ∧ digits.length = count ∧ digitLimit < count := by
  have accepted : readPlainInteger s ≠ .error .notInteger := by
    rw [refused]
    simp
  obtain ⟨negative, digits, plain⟩ := exists_plain accepted
  rw [plain.read, boundedInteger, List.length_map] at refused
  split at refused
  · next long =>
    injection refused with counted
    injection counted with counted
    exact ⟨negative, digits, plain, counted, counted ▸ long⟩
  · contradiction

end SandboxProfile.Text
