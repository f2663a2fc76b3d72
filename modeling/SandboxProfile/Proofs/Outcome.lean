/-! Computations that may fail: how a sequence of them ends, and when two of them
end alike. -/
namespace SandboxProfile

namespace Outcome
variable {ε ε' α β γ δ : Type}

@[simp] theorem ok_bind (a : α) (f : α → Except ε β) : (Except.ok a >>= f) = f a := rfl

@[simp] theorem error_bind (e : ε) (f : α → Except ε β) :
    ((Except.error e : Except ε α) >>= f) = .error e := rfl

@[simp] theorem mapError_ok (a : α) (f : ε → ε') :
    (Except.ok a : Except ε α).mapError f = .ok a := rfl

@[simp] theorem mapError_error (e : ε) (f : ε → ε') :
    (Except.error e : Except ε α).mapError f = .error (f e) := rfl

theorem mapError_eq_ok {x : Except ε α} {f : ε → ε'} {a : α} :
    x.mapError f = .ok a ↔ x = .ok a := by
  cases x <;> simp

theorem mapError_eq_error {x : Except ε α} {f : ε → ε'} {e : ε'} :
    x.mapError f = .error e ↔ ∃ cause, x = .error cause ∧ f cause = e := by
  cases x <;> simp

/-- A sequence succeeds if each of its parts does. -/
theorem bind_eq_ok {x : Except ε α} {f : α → Except ε β} {b : β} :
    (x >>= f) = .ok b ↔ ∃ a, x = .ok a ∧ f a = .ok b := by
  cases x <;> simp

theorem bind_eq_error {x : Except ε α} {f : α → Except ε β} {e : ε} :
    (x >>= f) = .error e ↔ x = .error e ∨ ∃ a, x = .ok a ∧ f a = .error e := by
  cases x <;> simp

/-- A sequence has a result if its first part has one with which the second has one. -/
theorem exists_bind {x : Except ε α} {f : α → Except ε β} :
    (∃ b, (x >>= f) = .ok b) ↔ ∃ a, x = .ok a ∧ ∃ b, f a = .ok b := by
  cases x <;> simp

theorem exists_bind_pure {x : Except ε α} {f : α → β} :
    (∃ b, (x >>= fun a => pure (f a)) = .ok b) ↔ ∃ a, x = .ok a := by
  simp [exists_bind, pure, Except.pure]

/-- A row of computations has results if each of them has one. -/
theorem exists_mapM {f : α → Except ε β} {items : List α} :
    (∃ out, items.mapM f = .ok out) ↔ ∀ a ∈ items, ∃ b, f a = .ok b := by
  induction items with
  | nil => simp [pure, Except.pure]
  | cons a rest ih =>
    rw [List.forall_mem_cons, ← ih, List.mapM_cons, exists_bind]
    simp only [exists_bind_pure, exists_and_right]

/-- Each part of a row has its result in the row of results. -/
theorem exists_mem_of_mapM {f : α → Except ε β} {items : List α} {results : List β}
    (given : items.mapM f = .ok results) {a : α} (member : a ∈ items) :
    ∃ b ∈ results, f a = .ok b := by
  induction items generalizing results with
  | nil => contradiction
  | cons first rest ih =>
    rw [List.mapM_cons] at given
    obtain ⟨b, here, given⟩ := bind_eq_ok.mp given
    obtain ⟨others, later, given⟩ := bind_eq_ok.mp given
    obtain rfl := Except.ok.inj given
    rcases List.mem_cons.mp member with rfl | behind
    · exact ⟨b, List.mem_cons_self, here⟩
    · obtain ⟨b', listed, there⟩ := ih later behind
      exact ⟨b', List.mem_cons_of_mem b listed, there⟩

theorem map_eq_ok {x : Except ε α} {f : α → β} {b : β} :
    x.map f = .ok b ↔ ∃ a, x = .ok a ∧ f a = b := by
  cases x <;> simp [Except.map]

theorem map_eq_error {x : Except ε α} {f : α → β} {e : ε} : x.map f = .error e ↔ x = .error e := by
  cases x <;> simp [Except.map]

theorem exists_map {x : Except ε α} {f : α → β} :
    (∃ b, x.map f = .ok b) ↔ ∃ a, x = .ok a := by
  cases x <;> simp [Except.map]

theorem eq_ok_of_toOption {x : Except ε α} {a : α} (given : x.toOption = some a) : x = .ok a := by
  cases x with
  | error e => contradiction
  | ok b => rw [Option.some.inj given]

/-- A sequence that ends at an absent result gives one only if each of its parts does. -/
theorem present_of_bind {x : Except ε (Option α)} {f : Option α → Except ε (Option β)} {b : β}
    (given : (x >>= f) = .ok (some b)) (absent : f none = .ok none) :
    ∃ a, x = .ok (some a) ∧ f (some a) = .ok (some b) := by
  rcases x with e | _ | a
  · contradiction
  · simp [absent] at given
  · exact ⟨a, rfl, given⟩

theorem mapOption_eq_ok {x : Except ε (Option α)} {f : α → β} {b : β} :
    x.map (Option.map f) = .ok (some b) ↔ ∃ a, x = .ok (some a) ∧ f a = b := by
  rcases x with e | _ | a <;> simp [Except.map]

theorem mapError_map (x : Except ε α) (f : α → β) (g : ε → ε') :
    (x.map f).mapError g = (x.mapError g).map f := by
  cases x <;> rfl

end Outcome

/-- Two computations that end alike: both with a result or both with a fault. -/
inductive Agree (E : ε → ε' → Prop) (R : α → β → Prop) : Except ε α → Except ε' β → Prop where
  | ok {a : α} {b : β} : R a b → Agree E R (.ok a) (.ok b)
  | error {e : ε} {e' : ε'} : E e e' → Agree E R (.error e) (.error e')

namespace Agree
variable {ε ε' η η' α β γ δ : Type} {E : ε → ε' → Prop} {R : α → β → Prop} {S : γ → δ → Prop}
  {x : Except ε α} {y : Except ε' β}

theorem bind (agree : Agree E R x y) {f : α → Except ε γ} {g : β → Except ε' δ}
    (next : ∀ a b, R a b → Agree E S (f a) (g b)) : Agree E S (x >>= f) (y >>= g) := by
  cases agree with
  | ok related => exact next _ _ related
  | error related => exact .error related

/-- After a condition that holds in both or in neither, the branches have to agree. -/
theorem branch {x : Except ε Bool} {y : Except ε' Bool} (agree : Agree E Eq x y)
    {first second : Except ε γ} {other another : Except ε' δ} (holding : Agree E S first other)
    (failing : Agree E S second another) :
    Agree E S (x >>= fun holds => if holds then first else second)
      (y >>= fun holds => if holds then other else another) := by
  refine agree.bind fun holds _ same => ?_
  subst same
  cases holds with
  | true => exact holding
  | false => exact failing

theorem map (agree : Agree E R x y) {f : α → γ} {g : β → δ}
    (next : ∀ a b, R a b → S (f a) (g b)) : Agree E S (x.map f) (y.map g) := by
  cases agree with
  | ok related => exact .ok (next _ _ related)
  | error related => exact .error related

theorem of_map {x : Except ε α} {y : Except ε' β} {f : α → γ} {g : β → δ}
    (agree : Agree E S (x.map f) (y.map g)) : Agree E (fun a b => S (f a) (g b)) x y := by
  cases x <;> cases y <;> cases agree
  · exact .error ‹_›
  · exact .ok ‹_›

theorem mapError (agree : Agree E R x y) {E' : η → η' → Prop} {f : ε → η} {g : ε' → η'}
    (next : ∀ e e', E e e' → E' (f e) (g e')) : Agree E' R (x.mapError f) (y.mapError g) := by
  cases agree with
  | ok related => exact .ok related
  | error related => exact .error (next _ _ related)

/-- What follows for two results from where they come from relates them too. -/
theorem knowing (agree : Agree E R x y) {T : α → β → Prop}
    (next : ∀ a b, x = .ok a → y = .ok b → R a b → T a b) : Agree E T x y := by
  cases agree with
  | ok related => exact .ok (next _ _ rfl rfl related)
  | error related => exact .error related

theorem exists_ok (agree : Agree E R x y) {a : α} (given : x = .ok a) : ∃ b, y = .ok b ∧ R a b := by
  subst given
  cases agree with
  | ok related => exact ⟨_, rfl, related⟩

theorem mapOption {x : Except ε (Option α)} {y : Except ε' (Option β)}
    (agree : Agree E (Option.Rel R) x y) {f : α → γ} {g : β → δ}
    (next : ∀ a b, R a b → S (f a) (g b)) :
    Agree E (Option.Rel S) (x.map (Option.map f)) (y.map (Option.map g)) := by
  refine agree.map fun a b related => ?_
  cases related with
  | none => exact .none
  | some related => exact .some (next _ _ related)

theorem eq {x y : Except ε α} (agree : Agree Eq Eq x y) : x = y := by
  cases agree with
  | ok same => rw [same]
  | error same => rw [same]

theorem refl {E : ε → ε → Prop} {R : α → α → Prop} (faults : ∀ e, E e e) (results : ∀ a, R a a)
    (x : Except ε α) : Agree E R x x := by
  cases x with
  | ok a => exact .ok (results a)
  | error e => exact .error (faults e)

end Agree
end SandboxProfile
