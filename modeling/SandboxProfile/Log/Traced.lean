/-! Computations that keep notes. What was noted before a fault stays noted. -/
namespace SandboxProfile

structure Traced (ω ε α : Type) where
  notes : List ω
  result : Except ε α

namespace Traced
variable {ω ε ε' α β : Type}

protected def pure (a : α) : Traced ω ε α := ⟨[], .ok a⟩

protected def bind (x : Traced ω ε α) (f : α → Traced ω ε β) : Traced ω ε β :=
  match x.result with
  | .ok a => ⟨x.notes ++ (f a).notes, (f a).result⟩
  | .error e => ⟨x.notes, .error e⟩

instance : Monad (Traced ω ε) where
  pure := Traced.pure
  bind := Traced.bind

def note (w : ω) : Traced ω ε Unit := ⟨[w], .ok ()⟩

def fail (e : ε) : Traced ω ε α := ⟨[], .error e⟩

def ofExcept (x : Except ε α) : Traced ω ε α := ⟨[], x⟩

def mapError (f : ε → ε') (x : Traced ω ε α) : Traced ω ε' α := ⟨x.notes, x.result.mapError f⟩

def mapNotes {ω' : Type} (f : ω → ω') (x : Traced ω ε α) : Traced ω' ε α :=
  ⟨x.notes.map f, x.result⟩

@[ext] theorem ext {x y : Traced ω ε α} (hn : x.notes = y.notes) (hr : x.result = y.result) :
    x = y := by
  cases x; cases y; simp_all

theorem pure_bind (a : α) (f : α → Traced ω ε β) : (Traced.pure a).bind f = f a := by
  simp [Traced.pure, Traced.bind]

theorem bind_pure (x : Traced ω ε α) : x.bind Traced.pure = x := by
  rcases x with ⟨notes, _ | a⟩ <;> simp [Traced.bind, Traced.pure]

theorem bind_assoc (x : Traced ω ε α) (f : α → Traced ω ε β) (g : β → Traced ω ε γ) :
    (x.bind f).bind g = x.bind fun a => (f a).bind g := by
  rcases x with ⟨notes, _ | a⟩
  · simp [Traced.bind]
  · simp only [Traced.bind]
    rcases f a with ⟨notes', _ | b⟩ <;> simp [List.append_assoc]

@[simp] theorem result_bind (x : Traced ω ε α) (f : α → Traced ω ε β) :
    (x >>= f).result = x.result >>= fun a => (f a).result := by
  rcases x with ⟨notes, _ | a⟩ <;> rfl

@[simp] theorem result_pure (a : α) : (pure a : Traced ω ε α).result = .ok a := rfl

@[simp] theorem result_note (w : ω) : (note w : Traced ω ε Unit).result = .ok () := rfl

@[simp] theorem result_fail (e : ε) : (fail e : Traced ω ε α).result = .error e := rfl

@[simp] theorem result_ofExcept (x : Except ε α) : (ofExcept x : Traced ω ε α).result = x := rfl

end Traced
end SandboxProfile
