import SandboxProfile.Proofs.Text.Integer
import Mathlib.Data.List.Forall2

/-! Texts of digits as numerals. Such a text has no white space around it, no sign and no separator,
so it stands for an integer just if each digit has its place in a numeral and there are not too
many of them. -/
namespace SandboxProfile.Text
variable {cs : List Char} {digits : List Nat} {s : String}

/-- Digits with a place in a numeral, and no more of them than are allowed. -/
def IsNumeral (s : String) : Prop :=
  (∀ c ∈ s.toList, (digitValue? c).isSome) ∧ s.toList.length ≤ digitLimit

/-- Without an underscore between them, digits have one value for each character. By induction on
the digits. -/
theorem digits_iff_forall₂ (given : cs ≠ []) (plain : '_' ∉ cs) :
    Digits cs digits ↔ List.Forall₂ (fun c d => digitValue? c = some d) cs digits := by
  constructor
  · intro spelled
    clear given
    induction spelled with
    | last value => exact .cons value .nil
    | next value _ ih =>
      exact .cons value (ih fun member => plain (List.mem_cons_of_mem _ member))
    | apart _ _ _ => exact absurd (List.mem_cons_of_mem _ List.mem_cons_self) plain
  · intro values
    induction values with
    | nil => contradiction
    | cons value others ih =>
      cases others with
      | nil => exact .last value
      | cons next others =>
        refine .next value (ih (List.cons_ne_nil _ _) ?_)
        exact fun member => plain (List.mem_cons_of_mem _ member)

theorem exists_digits_iff (given : cs ≠ []) (plain : '_' ∉ cs) :
    (∃ digits, Digits cs digits ∧ digits.length ≤ digitLimit) ↔
      (∀ c ∈ cs, (digitValue? c).isSome) ∧ cs.length ≤ digitLimit := by
  constructor
  · rintro ⟨digits, spelled, bounded⟩
    have values := (digits_iff_forall₂ given plain).mp spelled
    have valued := values.imp fun c d value => And.intro (Option.isSome_of_eq_some value) value
    exact ⟨((List.forall₂_and_left _ _).mp valued).1, values.length_eq ▸ bounded⟩
  · rintro ⟨valued, bounded⟩
    refine ⟨cs.map fun c => (digitValue? c).getD 0, (digits_iff_forall₂ given plain).mpr ?_, ?_⟩
    · apply List.forall₂_map_right_iff.mpr
      apply List.forall₂_same.mpr
      intro c member
      obtain ⟨d, value⟩ := Option.isSome_iff_exists.mp (valued c member)
      rw [value, Option.getD_some]
    · rwa [List.length_map]

/-- A text of digits that stands for an integer is nothing but the digits of a numeral: there is no
white space to be trimmed and no sign. -/
theorem Denotes.exists_digits {i : Int} (denotes : Denotes s i)
    (each : ∀ c ∈ s.toList, isDigit c = true) :
    ∃ digits, Digits s.toList digits ∧ digits.length ≤ digitLimit := by
  obtain ⟨around, signed, spelled, bounded⟩ := denotes
  have bare : Bare isWhiteSpace s.toList :=
    .of_none fun c member => not_isWhiteSpace_of_isDigit (each c member)
  have whole := (trimList_of_surrounded around (bare_of_digits signed spelled)).symm.trans
    (trimList_of_surrounded (.refl _) bare)
  cases signed with
  | plus => exact absurd (each '+' (whole ▸ List.mem_cons_self)) (by decide)
  | minus => exact absurd (each '-' (whole ▸ List.mem_cons_self)) (by decide)
  | missing =>
    rw [List.nil_append] at whole
    exact ⟨_, whole ▸ spelled, bounded⟩

/-- The texts of digits that stand for an integer. -/
theorem exists_readInteger_iff (given : s ≠ "") (digits : s.toList.all isDigit = true) :
    (∃ i, readInteger s = .ok i) ↔ IsNumeral s := by
  have each : ∀ c ∈ s.toList, isDigit c = true := List.all_eq_true.mp digits
  have plain : '_' ∉ s.toList := fun member => absurd (each _ member) (by decide)
  have nonempty : s.toList ≠ [] := fun none => given (String.toList_eq_nil_iff.mp none)
  rw [IsNumeral, ← exists_digits_iff nonempty plain]
  constructor
  · rintro ⟨i, read⟩
    exact (readInteger_eq_ok_iff.mp read).exists_digits each
  · rintro ⟨digits, spelled, bounded⟩
    exact ⟨_, readInteger_eq_ok_iff.mpr (.intro (.refl _) .missing spelled bounded)⟩

end SandboxProfile.Text
