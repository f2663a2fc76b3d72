import SandboxProfile.Text.Quoted
import Mathlib.Algebra.Group.Nat.Defs

/-! Quoted texts and their reader. The quote in front of a text is the one that ends it, and
what stands between them stands for the text character by character, so that the reader gives
the text back whatever comes behind it. -/
namespace SandboxProfile.Text

def hexValue (c : Char) : Nat := if c.isDigit then c.toNat - '0'.toNat else c.toNat - 'a'.toNat + 10

def ofHexDigits (cs : List Char) : Nat := cs.foldl (fun n c => 16 * n + hexValue c) 0

/-- The number of digits behind the letter of an escaped code point. -/
def hexWidth? : Char → Option Nat
  | 'x' => some 2
  | 'u' => some 4
  | 'U' => some 8
  | _ => none

/-- The control character that a letter stands for behind a backslash. -/
def controlChar? : Char → Option Char
  | 'n' => some '\n'
  | 'r' => some '\r'
  | 't' => some '\t'
  | _ => none

/-- Reads one character of a quoted text. -/
def unquoteChar : List Char → Option (Char × List Char)
  | [] => none
  | '\\' :: kind :: rest =>
    match hexWidth? kind with
    | some width => some (Char.ofNat (ofHexDigits (rest.take width)), rest.drop width)
    | none => some ((controlChar? kind).getD kind, rest)
  | c :: rest => some (c, rest)

/-- Reads the characters of a quoted text up to its second quote. -/
def unquoteRest (mark : Char) : Nat → List Char → Option (List Char × List Char)
  | 0, _ => none
  | fuel + 1, cs =>
    if cs.head? = some mark then some ([], cs.drop 1)
    else
      (unquoteChar cs).bind fun (c, rest) =>
        (unquoteRest mark fuel rest).map fun (others, rest) => (c :: others, rest)

/-- Reads a quoted text, and gives what comes behind it. -/
def unquote : List Char → Option (String × List Char)
  | [] => none
  | mark :: cs =>
    (unquoteRest mark (cs.length + 1) cs).map fun (text, rest) => (String.ofList text, rest)

/-! ### Code points -/

theorem hexValue_hexDigit (n : Nat) : hexValue (hexDigit n) = n % 16 := by
  have digits : ∀ digit < 16, hexValue (Nat.digitChar digit) = digit := by decide
  exact digits _ (Nat.mod_lt n (by decide))

theorem length_hexFixed (width n : Nat) : (hexFixed width n).length = width := by
  induction width generalizing n with
  | zero => rfl
  | succ width ih => rw [hexFixed, List.length_append, ih, List.length_singleton]

theorem ofHexDigits_hexFixed (width n : Nat) :
    ofHexDigits (hexFixed width n) = n % 16 ^ width := by
  induction width generalizing n with
  | zero => rw [Nat.pow_zero, Nat.mod_one]; rfl
  | succ width ih =>
    have higher := ih (n / 16)
    unfold ofHexDigits at *
    rw [hexFixed, List.foldl_append, higher, List.foldl_cons, List.foldl_nil, hexValue_hexDigit,
      Nat.pow_succ', Nat.mod_mul, Nat.add_comm]

theorem toNat_lt_hex (c : Char) : c.toNat < 16 ^ 8 := by
  rcases c.valid with low | ⟨-, high⟩
  · exact Nat.lt_trans low (by decide)
  · exact Nat.lt_trans high (by decide)

/-! ### Characters -/

/-- What may be written for a character between two quotes. -/
inductive Written (mark c : Char) : List Char → Prop where
  | bare (other : c ≠ mark) (noEscape : c ≠ '\\') : Written mark c [c]
  | escaped (special : c = mark ∨ c = '\\') : Written mark c ['\\', c]
  | control {letter : Char} (named : controlChar? letter = some c) : Written mark c ['\\', letter]
  | coded {letter : Char} {width : Nat} (digits : hexWidth? letter = some width)
      (room : c.toNat < 16 ^ width) : Written mark c ('\\' :: letter :: hexFixed width c.toNat)

theorem written_quotedChar (mark c : Char) : Written mark c (quotedChar mark c) := by
  unfold quotedChar
  by_cases special : (c = mark || c = '\\') = true
  · rw [if_pos special]
    exact .escaped (by simpa using special)
  · rw [if_neg special]
    simp only [Bool.or_eq_true, decide_eq_true_eq, not_or] at special
    split
    · next same => exact .control (same ▸ rfl)
    split
    · next same => exact .control (same ▸ rfl)
    split
    · next same => exact .control (same ▸ rfl)
    split
    · exact .bare special.1 special.2
    split
    · next low => exact .coded rfl low
    split
    · next low => exact .coded rfl low
    · exact .coded rfl (toNat_lt_hex c)

namespace Written
variable {mark c : Char} {cs : List Char}

/-- No character is written so that the text seems to end. -/
theorem head_ne (written : Written mark c cs) (quote : mark ≠ '\\') :
    ∃ d ds, cs = d :: ds ∧ d ≠ mark := by
  cases written with
  | bare other _ => exact ⟨_, _, rfl, other⟩
  | escaped _ => exact ⟨_, _, rfl, quote.symm⟩
  | control _ => exact ⟨_, _, rfl, quote.symm⟩
  | coded _ _ => exact ⟨_, _, rfl, quote.symm⟩

/-- Each character is read back from what is written for it. -/
theorem unquoteChar (written : Written mark c cs) (quote : mark = '\'' ∨ mark = '"')
    (rest : List Char) : unquoteChar (cs ++ rest) = some (c, rest) := by
  cases written with
  | bare _ noEscape =>
    unfold Text.unquoteChar
    split
    · contradiction
    · next same => exact absurd (List.cons.inj same).1 noEscape
    · next same =>
      obtain ⟨rfl, rfl⟩ := List.cons.inj same
      rfl
  | escaped special =>
    have itself : hexWidth? c = none ∧ controlChar? c = none := by
      rcases special with rfl | rfl
      · rcases quote with rfl | rfl <;> decide
      · decide
    simp [Text.unquoteChar, itself]
  | @control letter named =>
    have noCode : hexWidth? letter = none := by
      unfold controlChar? at named
      split at named
      · rfl
      · rfl
      · rfl
      · contradiction
    simp [Text.unquoteChar, noCode, named]
  | @coded letter width digits room =>
    have front : (hexFixed width c.toNat ++ rest).take width = hexFixed width c.toNat :=
      List.take_left' (length_hexFixed width c.toNat)
    have back : (hexFixed width c.toNat ++ rest).drop width = rest :=
      List.drop_left' (length_hexFixed width c.toNat)
    simp only [List.cons_append, Text.unquoteChar, digits]
    rw [front, back, ofHexDigits_hexFixed, Nat.mod_eq_of_lt room, Char.ofNat_toNat]

end Written

/-! ### Texts -/

theorem quoteMark_cases (cs : List Char) : quoteMark cs = '\'' ∨ quoteMark cs = '"' := by
  unfold quoteMark
  split
  · exact .inr rfl
  · exact .inl rfl

theorem ne_backslash {mark : Char} (quote : mark = '\'' ∨ mark = '"') : mark ≠ '\\' := by
  rcases quote with rfl | rfl <;> decide

theorem length_le_quotedChars {mark : Char} (quote : mark ≠ '\\') (cs : List Char) :
    cs.length ≤ (cs.flatMap (quotedChar mark)).length := by
  induction cs with
  | nil => exact Nat.le_refl 0
  | cons c cs ih =>
    obtain ⟨d, ds, first, -⟩ := (written_quotedChar mark c).head_ne quote
    rw [List.flatMap_cons, first]
    simp only [List.length_cons, List.length_append]
    omega

/-- By induction on the characters, each of which takes one step. -/
theorem unquoteRest_quotedChars {mark : Char} (quote : mark = '\'' ∨ mark = '"') {cs : List Char}
    {fuel : Nat} (enough : cs.length < fuel) (rest : List Char) :
    unquoteRest mark fuel (cs.flatMap (quotedChar mark) ++ mark :: rest) = some (cs, rest) := by
  induction cs generalizing fuel with
  | nil =>
    obtain ⟨fuel, rfl⟩ := Nat.exists_eq_succ_of_ne_zero (Nat.ne_of_gt enough)
    simp [unquoteRest]
  | cons c cs ih =>
    obtain ⟨fuel, rfl⟩ := Nat.exists_eq_succ_of_ne_zero (Nat.ne_of_gt (Nat.zero_lt_of_lt enough))
    have written := written_quotedChar mark c
    have others := ih (Nat.lt_of_succ_lt_succ enough)
    have read := written.unquoteChar quote (cs.flatMap (quotedChar mark) ++ mark :: rest)
    obtain ⟨d, ds, first, other⟩ := written.head_ne (ne_backslash quote)
    have more : (quotedChar mark c ++ (cs.flatMap (quotedChar mark) ++ mark :: rest)).head? ≠
        some mark := by
      rw [first]
      exact fun same => other (Option.some.inj same)
    rw [List.flatMap_cons, List.append_assoc, unquoteRest, if_neg more, read, Option.bind_some]
    dsimp only
    rw [others, Option.map_some]

/-- A text is read back from its quoted form, whatever comes behind it. -/
theorem unquote_quoted (s : String) (rest : List Char) :
    unquote ((quoted s).toList ++ rest) = some (s, rest) := by
  have quote := quoteMark_cases s.toList
  have longer := length_le_quotedChars (ne_backslash quote) s.toList
  rw [quoted, String.toList_ofList, List.cons_append, List.append_assoc, List.singleton_append,
    unquote, unquoteRest_quotedChars quote (by simp only [List.length_append]; omega),
    Option.map_some]
  dsimp only
  rw [String.ofList_toList]

end SandboxProfile.Text
