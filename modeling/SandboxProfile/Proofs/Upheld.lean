import SandboxProfile.Log.Traced
import SandboxProfile.Proofs.Outcome

/-! Pairs of computations of which the second upholds the first: both are the same, except
that a failure of the first one may be excused. Without excuses this is equality, and with
them it keeps every result that the first one gives. A sequence is upheld if each of its
parts is. -/
namespace SandboxProfile
variable {ω ε ε' α β : Type} {excused : Prop}

def Upheld (excused : Prop) (x y : Except ε α) : Prop := x = y ∨ excused ∧ ∃ e, x = .error e

namespace Upheld
variable {x y : Except ε α}

theorem refl (x : Except ε α) : Upheld excused x x := .inl rfl

/-- What is upheld in every result is upheld if failures are excused. -/
theorem of_results (sustained : ∀ a, x = .ok a → y = .ok a) : Upheld True x y := by
  cases x with
  | error e => exact .inr ⟨trivial, e, rfl⟩
  | ok a => exact .inl (sustained a rfl).symm

theorem result (upheld : Upheld excused x y) {a : α} (given : x = .ok a) : y = .ok a := by
  rcases upheld with rfl | ⟨-, e, rfl⟩
  · exact given
  · contradiction

theorem eq (upheld : Upheld False x y) : x = y := upheld.resolve_right fun failed => failed.1

theorem bind (upheld : Upheld excused x y) {f g : α → Except ε β}
    (next : ∀ a, Upheld excused (f a) (g a)) : Upheld excused (x >>= f) (y >>= g) := by
  rcases upheld with rfl | ⟨fine, e, rfl⟩
  · cases x with
    | error e => exact refl _
    | ok a => exact next a
  · exact .inr ⟨fine, e, rfl⟩

/-- After an upheld condition either branch has to be upheld, as either may be taken. -/
theorem branch {x y : Except ε Bool} (upheld : Upheld excused x y)
    {first other second another : Except ε β} (holding : Upheld excused first other)
    (failing : Upheld excused second another) :
    Upheld excused (x >>= fun holds => if holds then first else second)
      (y >>= fun holds => if holds then other else another) := by
  refine upheld.bind fun holds => ?_
  cases holds with
  | true => exact holding
  | false => exact failing

theorem map (upheld : Upheld excused x y) (f : α → β) : Upheld excused (x.map f) (y.map f) := by
  rcases upheld with rfl | ⟨fine, e, rfl⟩
  · exact refl _
  · exact .inr ⟨fine, e, rfl⟩

theorem mapError (upheld : Upheld excused x y) (f : ε → ε') :
    Upheld excused (x.mapError f) (y.mapError f) := by
  rcases upheld with rfl | ⟨fine, e, rfl⟩
  · exact refl _
  · exact .inr ⟨fine, f e, rfl⟩

end Upheld

namespace Traced

/-- A computation that keeps notes is upheld together with its notes. -/
def Upheld (excused : Prop) (x y : Traced ω ε α) : Prop :=
  x = y ∨ excused ∧ ∃ e, x.result = .error e

namespace Upheld
variable {x y : Traced ω ε α}

theorem refl (x : Traced ω ε α) : Upheld excused x x := .inl rfl

theorem ofExcept {x y : Except ε α} (upheld : SandboxProfile.Upheld excused x y) :
    Upheld (ω := ω) excused (ofExcept x) (ofExcept y) := by
  rcases upheld with rfl | failed
  · exact refl _
  · exact .inr failed

/-- A failure is the failure of the whole sequence; a result is handed on with the notes. -/
theorem bind (upheld : Upheld excused x y) {f g : α → Traced ω ε β}
    (next : ∀ a, Upheld excused (f a) (g a)) : Upheld excused (x >>= f) (y >>= g) := by
  rcases upheld with rfl | ⟨fine, e, failed⟩
  · obtain ⟨notes, e | a⟩ := x
    · exact refl _
    · rcases next a with same | ⟨fine, e, failed⟩
      · left
        show Traced.bind ⟨notes, .ok a⟩ f = Traced.bind ⟨notes, .ok a⟩ g
        simp only [Traced.bind, same]
      · exact .inr ⟨fine, e, failed⟩
  · refine .inr ⟨fine, e, ?_⟩
    rw [result_bind, failed]
    rfl

theorem branch {x y : Traced ω ε Bool} (upheld : Upheld excused x y)
    {first other second another : Traced ω ε β} (holding : Upheld excused first other)
    (failing : Upheld excused second another) :
    Upheld excused (x >>= fun holds => if holds then first else second)
      (y >>= fun holds => if holds then other else another) := by
  refine upheld.bind fun holds => ?_
  cases holds with
  | true => exact holding
  | false => exact failing

theorem eq (upheld : Upheld False x y) : x = y := upheld.resolve_right fun failed => failed.1

theorem eq_of_result (upheld : Upheld excused x y) {a : α} (given : x.result = .ok a) :
    x = y := by
  rcases upheld with same | ⟨-, e, failed⟩
  · exact same
  · rw [given] at failed
    contradiction

end Upheld
end Traced
end SandboxProfile
