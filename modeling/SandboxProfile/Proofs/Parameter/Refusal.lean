import SandboxProfile.Parameter.Coerce
import SandboxProfile.Proofs.Outcome
import SandboxProfile.Proofs.Policy.Alike

/-! Faults of coercion. A value that does not fit is refused with a mismatch of types that names
the parameter; the only other fault is that of a numeral with too many digits. -/
namespace SandboxProfile

/-- A value does not fit, and the fault says which parameter it was meant for. -/
structure ParameterFault.Mismatch (name : String) (fault : ParameterFault) : Prop where
  family : fault.family = .typeMismatch
  named : fault.name? = some name

open ParameterFault
variable {name : String} {kind : ParamKind} {raw : Value} {fault : ParameterFault}

theorem coerceFlag_mismatch (failed : coerceFlag name raw = .error fault) :
    Mismatch name fault := by
  unfold coerceFlag at failed
  repeat' split at failed
  all_goals cases failed
  all_goals exact ⟨rfl, rfl⟩

theorem coerceText_mismatch (failed : coerceText name raw = .error fault) :
    Mismatch name fault := by
  unfold coerceText at failed
  repeat' split at failed
  all_goals cases failed
  all_goals exact ⟨rfl, rfl⟩

theorem coercePath_mismatch (failed : coercePath name raw = .error fault) :
    Mismatch name fault := by
  unfold coercePath at failed
  rcases Outcome.bind_eq_error.mp failed with text | ⟨path, -, failed⟩
  · exact coerceText_mismatch text
  · repeat' split at failed
    all_goals cases failed
    all_goals exact ⟨rfl, rfl⟩

/-- A text is refused as a numeral that is too long. -/
inductive Overlong (kind : ParamKind) (raw : Value) (fault : ParameterFault) : Prop
  | intro {s : String} {count : Nat} (asked : kind = .int) (text : raw = .text s)
      (read : Text.readPlainInteger s = .error (.tooManyDigits count))
      (same : fault = .tooManyDigits count)

theorem coerceNumber_eq_error (failed : coerceNumber name raw = .error fault) :
    Mismatch name fault ∨ Overlong .int raw fault := by
  unfold coerceNumber at failed
  split at failed
  · contradiction
  · next s =>
    split at failed
    · contradiction
    · next count read =>
      cases failed
      exact .inr (.intro rfl rfl read rfl)
    · cases failed
      exact .inl ⟨rfl, rfl⟩
  · cases failed
    exact .inl ⟨rfl, rfl⟩

/-- A coercion fails because a value does not fit, or because a number in it is too long. -/
theorem coerce_eq_error (failed : coerce name kind raw = .error fault) :
    Mismatch name fault ∨ Overlong kind raw fault := by
  unfold coerce at failed
  split at failed
  · contradiction
  · split at failed
    · cases failed
      exact .inl ⟨rfl, rfl⟩
    · cases kind with
      | bool => exact .inl (coerceFlag_mismatch (Outcome.map_eq_error.mp failed))
      | int => exact coerceNumber_eq_error (Outcome.map_eq_error.mp failed)
      | string | optionalString =>
        exact .inl (coerceText_mismatch (Outcome.map_eq_error.mp failed))
      | path | optionalPath =>
        exact .inl (coercePath_mismatch (Outcome.map_eq_error.mp failed))

end SandboxProfile
