/-! Forecasts: what is told of a computation before it is made, and what it means that
the computation ends as it was told. Forecasts are put together as computations are. -/
namespace SandboxProfile

/-- What is told of a computation: something about its result, the cause of its
failure, or nothing. -/
inductive Forecast (κ α : Type) where
  | gives (about : α)
  | fails (cause : κ)
  | unsure
  deriving Repr, DecidableEq

/-- Whether a truth value is as it was told, if it was told. -/
def Tells (told : Option Bool) (holds : Bool) : Prop := ∀ b ∈ told, holds = b

/-- What is told of a truth value by both of two tellings. -/
def joinTruth (a b : Option Bool) : Option Bool := if a = b then a else none

theorem Tells.joinLeft {a b : Option Bool} {holds : Bool} (tells : Tells a holds) :
    Tells (joinTruth a b) holds := by
  unfold joinTruth
  split
  · exact tells
  · simp [Tells]

theorem Tells.joinRight {a b : Option Bool} {holds : Bool} (tells : Tells b holds) :
    Tells (joinTruth a b) holds := by
  unfold joinTruth
  split
  · next same => rwa [same]
  · simp [Tells]

/-- Whether a result is present if that was told. -/
def Present (told : Bool) (out : Option α) : Prop := told = true → out.isSome = true

/-- Nothing is told of a result but that there is one. -/
def Untold (_ : Unit) (_ : α) : Prop := True

def joinUntold (_ _ : Unit) : Unit := ()

namespace Forecast
variable {κ ε α β γ δ : Type}

def bind (x : Forecast κ α) (next : α → Forecast κ β) : Forecast κ β :=
  match x with
  | .gives about => next about
  | .fails cause => .fails cause
  | .unsure => .unsure

/-- What can be told of one of two computations, if it is open which one is made. -/
def either [DecidableEq κ] (join : α → α → α) : Forecast κ α → Forecast κ α → Forecast κ α
  | .gives a, .gives b => .gives (join a b)
  | .fails c, .fails d => if c = d then .fails c else .unsure
  | _, _ => .unsure

theorem either_swap [DecidableEq κ] (join : α → α → α) (x y : Forecast κ α) :
    x.either join y = y.either (fun a b => join b a) x := by
  cases x with
  | gives a => cases y <;> rfl
  | unsure => cases y <;> rfl
  | fails c =>
    cases y with
    | gives _ => rfl
    | unsure => rfl
    | fails d =>
      by_cases same : c = d
      · rw [same]
        rfl
      · simp [either, same, Ne.symm same]

/-- A computation after a condition, by what is told of the condition. -/
def branch [DecidableEq κ] (join : α → α → α) (told : Forecast κ (Option Bool))
    (body otherwise : Forecast κ α) : Forecast κ α :=
  told.bind fun
    | some true => body
    | some false => otherwise
    | none => body.either join otherwise

/-- A computation that goes on only if the one before it gives something. -/
def ifPresent [DecidableEq κ] (x next : Forecast κ Bool) : Forecast κ Bool :=
  x.bind fun present => if present then next else next.either (· && ·) (.gives false)

/-- A computation ends as it was told. -/
inductive Meets (toFault : κ → ε) (R : α → β → Prop) : Forecast κ α → Except ε β → Prop where
  | gives {a : α} {b : β} : R a b → Meets toFault R (.gives a) (.ok b)
  | fails (cause : κ) : Meets toFault R (.fails cause) (.error (toFault cause))
  | unsure (e : Except ε β) : Meets toFault R .unsure e

namespace Meets
variable {toFault : κ → ε} {R : α → β → Prop} {S : γ → δ → Prop} {x y : Forecast κ α}
  {e : Except ε β}

theorem bind (meets : Meets toFault R x e) {f : α → Forecast κ γ} {g : β → Except ε δ}
    (next : ∀ a b, R a b → Meets toFault S (f a) (g b)) :
    Meets toFault S (x.bind f) (e >>= g) := by
  cases meets with
  | gives related => exact next _ _ related
  | fails cause => exact .fails cause
  | unsure e => exact .unsure _

theorem exists_ok {a : α} (meets : Meets toFault R x e) (told : x = .gives a) :
    ∃ b, e = .ok b ∧ R a b := by
  subst told
  cases meets with
  | gives related => exact ⟨_, rfl, related⟩

theorem left [DecidableEq κ] (meets : Meets toFault R x e) {join : α → α → α}
    (weaker : ∀ a other b, R a b → R (join a other) b) :
    Meets toFault R (x.either join y) e := by
  cases meets with
  | unsure e => exact .unsure e
  | gives related =>
    cases y with
    | gives other => exact .gives (weaker _ other _ related)
    | fails _ => exact .unsure _
    | unsure => exact .unsure _
  | fails cause =>
    cases y with
    | gives _ => exact .unsure _
    | unsure => exact .unsure _
    | fails other =>
      by_cases same : cause = other
      · rw [either, if_pos same]
        exact .fails cause
      · rw [either, if_neg same]
        exact .unsure _

theorem right [DecidableEq κ] (meets : Meets toFault R y e) {join : α → α → α}
    (weaker : ∀ other a b, R a b → R (join other a) b) :
    Meets toFault R (x.either join y) e := by
  rw [either_swap]
  exact meets.left fun a other b related => weaker other a b related

/-- Where it is told how the condition ends, only that branch has to end as it was told. -/
theorem branch [DecidableEq κ] {join : α → α → α} {told : Forecast κ (Option Bool)}
    {condition : Except ε Bool} {body otherwise : Except ε β}
    (decides : Meets toFault Tells told condition) (first : Meets toFault R x body)
    (second : Meets toFault R y otherwise) (weakerLeft : ∀ a other b, R a b → R (join a other) b)
    (weakerRight : ∀ other a b, R a b → R (join other a) b) :
    Meets toFault R (told.branch join x y)
      (condition >>= fun holds => if holds then body else otherwise) := by
  refine decides.bind fun about holds related => ?_
  match about, holds with
  | some true, true => exact first
  | some false, false => exact second
  | none, true => exact first.left weakerLeft
  | none, false => exact second.right weakerRight
  | some true, false => simp [Tells] at related
  | some false, true => simp [Tells] at related

/-- A later computation is made if there is something to go on with. -/
theorem ifPresent [DecidableEq κ] {x next : Forecast κ Bool} {e : Except ε (Option β)}
    {g : Option β → Except ε (Option γ)} (meets : Meets toFault Present x e)
    (absent : g none = .ok none) (present : ∀ b, Meets toFault Present next (g (some b))) :
    Meets toFault Present (x.ifPresent next) (e >>= g) := by
  refine meets.bind fun told out related => ?_
  cases out with
  | none =>
    have notTold : told = false := by simpa [Present] using related
    rw [notTold, absent]
    exact right (.gives (by simp [Present])) (by simp [Present])
  | some b =>
    cases told with
    | true => exact present b
    | false => exact (present b).left (by simp +contextual [Present])

theorem map (meets : Meets toFault R x e) {T : α → γ → Prop} {f : β → γ}
    (next : ∀ a b, R a b → T a (f b)) : Meets toFault T x (e.map f) := by
  cases meets with
  | gives related => exact .gives (next _ _ related)
  | fails cause => exact .fails cause
  | unsure e => exact .unsure _

theorem mapSome {x : Forecast κ Bool} {e : Except ε (Option β)} (meets : Meets toFault Present x e)
    (f : β → γ) : Meets toFault Present x (e.map (Option.map f)) :=
  meets.map fun told out related => by simpa [Present] using related

end Meets
end Forecast

end SandboxProfile
