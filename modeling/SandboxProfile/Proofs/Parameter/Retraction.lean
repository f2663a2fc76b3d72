import SandboxProfile.Proofs.Parameter.Rebuilt
import SandboxProfile.Proofs.Text.Integer

/-! Coercion as a retraction. Each kind has a domain of settings. A value is taken to a setting of
the domain or refused with a fault that names the parameter, and a setting of the domain is taken
to itself. What stands in a value as a number or numeral may have no more digits than numerals may
have. -/
namespace SandboxProfile
open Text
variable {name s : String} {kind : ParamKind} {raw : Value} {setting : Option Setting}

namespace Value

mutual
/-- No integer in a value, and no text of digits in it, has more digits than numerals may have. -/
def IsShort : Value → Prop
  | .int i => digitCount i ≤ digitLimit
  | .text s => ∀ negative digits, Plain s negative digits → digits.length ≤ digitLimit
  | .list items => AreShort items
  | .set items => AreShort items
  | .table entries => HasShortEntries entries
  | _ => True

def AreShort : List Value → Prop
  | [] => True
  | v :: rest => IsShort v ∧ AreShort rest

def HasShortEntries : List (Value × Value) → Prop
  | [] => True
  | (key, v) :: rest => IsShort key ∧ IsShort v ∧ HasShortEntries rest
end

end Value

/-- How a coercion ends: with a setting of the kind, or with a mismatch that names the
parameter. -/
inductive Coerced (name : String) (kind : ParamKind) :
    Except ParameterFault (Option Setting) → Prop
  | admitted {setting : Option Setting} :
      kind.admits setting = true → Coerced name kind (.ok setting)
  | refused {fault : ParameterFault} : fault.Mismatch name → Coerced name kind (.error fault)

/-- Only a numeral could be too long, and in a short value none is. -/
theorem coerced_of_isShort (name : String) (kind : ParamKind) (short : raw.IsShort) :
    Coerced name kind (coerce name kind raw) := by
  cases ended : coerce name kind raw with
  | ok setting => exact .admitted (coerce_admits ended)
  | error fault =>
    rcases coerce_eq_error ended with mismatch | ⟨-, rfl, read, -⟩
    · exact .refused mismatch
    · obtain ⟨negative, digits, plain, counted, long⟩ := exists_plain_of_tooManyDigits read
      have bounded := short negative digits plain
      omega

theorem exists_coerce_iff : (∃ raw, coerce name kind raw = .ok setting) ↔
    kind.admits setting = true := by
  constructor
  · rintro ⟨raw, coerced⟩
    exact coerce_admits coerced
  · intro admitted
    exact ⟨_, coerce_toValue name admitted⟩

theorem coerce_numeral {i : Int} (name : String)
    (around : Surrounded isBlank (toString i).toList s.toList)
    (bounded : digitCount i ≤ digitLimit) :
    coerce name .int (.text s) = .ok (some (.number i)) := by
  have read : coerceNumber name (.text s) = .ok i := by
    rw [coerceNumber, readPlainInteger_toString around bounded]
  exact Outcome.map_eq_ok.mpr ⟨i, read, rfl⟩

/-- Coercion is a retraction onto the domain of each kind. A value is taken into the domain or
refused with a mismatch that names the parameter; what is in the domain is left as it is, so that
coercing twice is coercing once and the domain is all that comes out; and the decimal text of an
integer, with blanks around it, is taken to that integer. -/
theorem coerce_retracts (name : String) (kind : ParamKind) :
    (∀ raw : Value, raw.IsShort → Coerced name kind (coerce name kind raw)) ∧
    (∀ setting, kind.admits setting = true →
      coerce name kind (Setting.toValue setting) = .ok setting) ∧
    (∀ raw setting, coerce name kind raw = .ok setting →
      coerce name kind (Setting.toValue setting) = .ok setting) ∧
    (∀ setting, (∃ raw, coerce name kind raw = .ok setting) ↔ kind.admits setting = true) ∧
    ∀ (i : Int) (s : String), digitCount i ≤ digitLimit →
      Surrounded isBlank (toString i).toList s.toList →
        coerce name .int (.text s) = .ok (some (.number i)) := by
  refine ⟨?_, ?_, ?_, ?_, ?_⟩
  · intro raw short
    exact coerced_of_isShort name kind short
  · intro setting admitted
    exact coerce_toValue name admitted
  · intro raw setting coerced
    exact coerce_toValue name (coerce_admits coerced)
  · intro setting
    exact exists_coerce_iff
  · intro i s bounded around
    exact coerce_numeral name around bounded

theorem coerce_retracts_rough :
    (Value.list [.int (-7), .text " -007\t"]).IsShort ∧
      Coerced "HOME" .optionalPath
        (coerce "HOME" .optionalPath (.list [.int (-7), .text " -007\t"])) ∧
      ParamKind.optionalPath.admits (some (.text "/a b")) = true ∧
      coerce "HOME" .optionalPath (.text "/a b") = .ok (some (.text "/a b")) ∧
      Surrounded isBlank (toString (-7 : Int)).toList "\x1c-7\u2003".toList ∧
      coerce "HOME" .int (.text "\x1c-7\u2003") = .ok (some (.number (-7))) := by
  have short : (Value.list [.int (-7), .text " -007\t"]).IsShort := by
    refine ⟨?_, ?_, trivial⟩
    · show digitCount (-7) ≤ digitLimit
      decide
    · intro negative digits plain
      exact plain.length_le.trans (by decide)
  have around : Surrounded isBlank (toString (-7 : Int)).toList "\x1c-7\u2003".toList := by
    refine ⟨['\x1c'], ['\u2003'], ?_, ?_, rfl⟩
    all_goals exact List.all_eq_true.mp rfl
  obtain ⟨ends, -, again, -, numeral⟩ := coerce_retracts "HOME" .optionalPath
  have given : coerce "HOME" .optionalPath (.path "/a b") = .ok (some (.text "/a b")) := rfl
  exact ⟨short, ends _ short, rfl, again (.path "/a b") (some (.text "/a b")) given, around,
    numeral _ _ (by decide) around⟩

end SandboxProfile
