/-! Procedures that change a state on their way and may end with a fault. What was changed
before a fault stays changed. -/
namespace SandboxProfile.Procedure
variable {ε σ α β : Type}

/-- How a procedure ends, and the state after it. -/
def on (x : ExceptT ε (StateM σ) α) (s : σ) : Except ε α × σ := x.run.run s

@[simp] theorem on_pure (a : α) (s : σ) :
    on (pure a : ExceptT ε (StateM σ) α) s = (.ok a, s) := rfl

@[simp] theorem on_throw (e : ε) (s : σ) :
    on (throw e : ExceptT ε (StateM σ) α) s = (.error e, s) := rfl

@[simp] theorem on_get (s : σ) : on (getThe σ : ExceptT ε (StateM σ) σ) s = (.ok s, s) := rfl

@[simp] theorem on_modify (f : σ → σ) (s : σ) :
    on (modifyThe σ f : ExceptT ε (StateM σ) PUnit) s = (.ok ⟨⟩, f s) := rfl

@[simp] theorem on_liftExcept (x : Except ε α) (s : σ) :
    on (liftExcept x : ExceptT ε (StateM σ) α) s = (x, s) := by
  cases x <;> rfl

/-- A sequence goes on from the state that its first part leaves behind. -/
theorem on_bind (x : ExceptT ε (StateM σ) α) (f : α → ExceptT ε (StateM σ) β) (s : σ) :
    on (x >>= f) s = match on x s with
      | (.ok a, t) => on (f a) t
      | (.error e, t) => (.error e, t) := by
  unfold on
  show (ExceptT.bindCont f (x.run.run s).1).run (x.run.run s).2 = _
  rcases x.run.run s with ⟨_ | _, t⟩ <;> rfl

/-- A sequence succeeds if each of its parts does, the second one behind the first. -/
theorem on_bind_eq_ok {x : ExceptT ε (StateM σ) α} {f : α → ExceptT ε (StateM σ) β} {s u : σ}
    {b : β} : on (x >>= f) s = (.ok b, u) ↔
      ∃ a t, on x s = (.ok a, t) ∧ on (f a) t = (.ok b, u) := by
  rw [on_bind]
  rcases on x s with ⟨e | a, t⟩
  · simp
  · simp only [Prod.mk.injEq, Except.ok.injEq]
    constructor
    · intro given
      exact ⟨a, t, ⟨rfl, rfl⟩, given⟩
    · rintro ⟨_, _, ⟨rfl, rfl⟩, given⟩
      exact given

/-- A procedure that is rescued goes on from the state in which the fault left it. -/
theorem on_tryCatch (x : ExceptT ε (StateM σ) α) (rescue : ε → ExceptT ε (StateM σ) α) (s : σ) :
    on (tryCatch x rescue) s = match on x s with
      | (.ok a, t) => (.ok a, t)
      | (.error e, t) => on (rescue e) t := by
  have step : on (tryCatch x rescue) s =
      (fun r : Except ε α × σ => on (tryCatch (ExceptT.mk (pure r.1)) rescue) r.2) (on x s) := rfl
  rw [step]
  rcases on x s with ⟨_ | _, t⟩ <;> rfl

@[simp] theorem on_adapt {ε' : Type} (f : ε → ε') (x : ExceptT ε (StateM σ) α) (s : σ) :
    on (ExceptT.adapt f x) s = ((on x s).1.mapError f, (on x s).2) := rfl

/-- A part whose fault is a result of the whole. -/
@[simp] theorem on_attempt {ε' : Type} (x : ExceptT ε (StateM σ) α) (s : σ) :
    on (ExceptT.lift x.run : ExceptT ε' (StateM σ) (Except ε α)) s = (.ok (on x s).1, (on x s).2) :=
  rfl

end SandboxProfile.Procedure
