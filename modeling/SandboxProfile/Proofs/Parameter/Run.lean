import SandboxProfile.Proofs.Parameter.Reached
import SandboxProfile.Proofs.Procedure
import Mathlib.Data.List.Nodup

/-! Calls on a store, and runs of them. A call goes on step by step and changes the store on
its way, so that a fault would leave behind what was changed before it. It turns out that
nothing is changed before the last check, and what is known of a store follows from what a
call that is not refused adds to it. -/
namespace SandboxProfile

/-- The calls that can change a store. A kind is given by its name, which may be any text. -/
inductive Call where
  | bind (name kind : String) (raw : Value)
  | setPrimitives (primitives : List String)
  | freeze

namespace Call

/-- A call in steps, as it goes through its checks and changes the store behind them. -/
def perform : Call → ExceptT ParameterFault (StateM Store) Unit
  | .bind name kind raw => do
    let s ← getThe Store
    if s.frozen then throw (.frozen name)
    match ParamKind.ofName? kind with
    | none => throw (.unknownKind kind)
    | some kind =>
      liftExcept (s.checkCatalogue name kind)
      if s.isBound name then throw (.alreadyBound name)
      let setting ← liftExcept (coerce name kind raw)
      modifyThe Store fun s => { s with parameters := s.parameters ++ [⟨name, kind, setting⟩] }
  | .setPrimitives primitives => do
    let s ← getThe Store
    if s.frozen then throw .primitivesFrozen
    modifyThe Store fun s => { s with primitives := some primitives }
  | .freeze => modifyThe Store Store.freeze

/-- The outcome of a call on a store, and the store after it. -/
def on (call : Call) (s : Store) : Except ParameterFault Unit × Store :=
  Procedure.on call.perform s

/-- The name that a call has bound, given its outcome. -/
def bound? : Call → Except ParameterFault Unit → Option String
  | .bind name _ _, .ok _ => some name
  | _, _ => none

/-- What a call on a frozen store leads to. -/
def whenFrozen : Call → Except ParameterFault Unit
  | .bind name _ _ => .error (.frozen name)
  | .setPrimitives _ => .error .primitivesFrozen
  | .freeze => .ok ()

variable {s : Store}

/-- The steps of a binding come to the same as the binding of a name as a whole. -/
theorem on_bind (name kind : String) (raw : Value) : (Call.bind name kind raw).on s =
    match s.bindNamed name kind raw with
    | .ok (_, t) => (.ok (), t)
    | .error fault => (.error fault, s) := by
  simp only [on, perform, Procedure.on_bind, Procedure.on_get, Store.bindNamed]
  cases frozen : s.frozen with
  | true => rfl
  | false =>
    simp only [Bool.false_eq_true, ↓reduceIte]
    cases ParamKind.ofName? kind with
    | none => rfl
    | some k =>
      simp only [Store.bind, frozen, Bool.false_eq_true, ↓reduceIte, Procedure.on_bind,
        Procedure.on_liftExcept]
      cases s.checkCatalogue name k with
      | error fault => rfl
      | ok _ =>
        cases s.isBound name with
        | true => rfl
        | false =>
          simp only [Bool.false_eq_true, ↓reduceIte, Procedure.on_bind, Procedure.on_liftExcept]
          cases coerce name k raw with
          | error fault => rfl
          | ok setting =>
            rw [← frozen]
            rfl

theorem on_setPrimitives (primitives : List String) : (Call.setPrimitives primitives).on s =
    match s.setPrimitives primitives with
    | .ok t => (.ok (), t)
    | .error fault => (.error fault, s) := by
  simp only [on, perform, Procedure.on_bind, Procedure.on_get, Store.setPrimitives]
  by_cases frozen : s.frozen = true
  · rw [if_pos frozen, if_pos frozen]
    rfl
  · rw [if_neg frozen, if_neg frozen]
    rfl

/-- What a call can do: it is refused and nothing is changed, or it is one of the three calls
that are not refused. -/
inductive Effect (s : Store) : Call → Except ParameterFault Unit → Store → Prop
  | refused {call : Call} {fault : ParameterFault} : Effect s call (.error fault) s
  | bound {name kind : String} {raw : Value} {k : ParamKind} {p : Parameter} {t : Store} :
      s.bind name k raw = .ok (p, t) → Effect s (.bind name kind raw) (.ok ()) t
  | known {primitives : List String} {t : Store} :
      s.setPrimitives primitives = .ok t → Effect s (.setPrimitives primitives) (.ok ()) t
  | frozen : Effect s .freeze (.ok ()) s.freeze

theorem effect_on (call : Call) (s : Store) : Effect s call (call.on s).1 (call.on s).2 := by
  cases call with
  | bind name kind raw =>
    rw [on_bind]
    cases bound : s.bindNamed name kind raw with
    | error fault => exact .refused
    | ok result =>
      obtain ⟨p, t⟩ := result
      unfold Store.bindNamed at bound
      split at bound
      · contradiction
      · split at bound
        · contradiction
        · exact .bound bound
  | setPrimitives primitives =>
    rw [on_setPrimitives]
    cases changed : s.setPrimitives primitives with
    | error fault => exact .refused
    | ok t => exact .known changed
  | freeze => exact .frozen

/-- A frozen store refuses every call but to be frozen, which does nothing to it. -/
theorem on_of_frozen (call : Call) (closed : s.frozen = true) :
    call.on s = (call.whenFrozen, s) := by
  cases call with
  | bind name kind raw =>
    rw [on_bind, Store.bindNamed, if_pos closed]
    rfl
  | setPrimitives primitives =>
    rw [on_setPrimitives, Store.setPrimitives, if_pos closed]
    rfl
  | freeze =>
    show (Except.ok (), s.freeze) = _
    rw [Store.freeze, ← closed]
    rfl

namespace Effect
variable {t : Store} {call : Call} {outcome : Except ParameterFault Unit}

theorem reached (effect : Effect s call outcome t) (before : s.Reached) : t.Reached := by
  cases effect with
  | refused => exact before
  | bound accepted => exact before.bind accepted
  | known accepted => exact before.setPrimitives accepted
  | frozen => exact before.freeze

/-- A call adds the parameter that it binds behind those that are there. -/
theorem parameters (effect : Effect s call outcome t) : ∃ added : List Parameter,
    t.parameters = s.parameters ++ added ∧ added.map (·.name) = (call.bound? outcome).toList := by
  cases effect with
  | refused => exact ⟨[], (List.append_nil _).symm, by cases call <;> rfl⟩
  | bound accepted =>
    obtain ⟨-, rfl, -, -, rfl⟩ := Store.bind_eq_ok accepted
    exact ⟨[_], rfl, rfl⟩
  | known accepted =>
    rw [Store.setPrimitives_eq_ok accepted]
    exact ⟨[], (List.append_nil _).symm, rfl⟩
  | frozen => exact ⟨[], (List.append_nil _).symm, rfl⟩

theorem catalogue (effect : Effect s call outcome t) : t.catalogue = s.catalogue := by
  cases effect with
  | refused => rfl
  | bound accepted =>
    obtain ⟨-, -, -, -, rfl⟩ := Store.bind_eq_ok accepted
    rfl
  | known accepted => rw [Store.setPrimitives_eq_ok accepted]
  | frozen => rfl

theorem unchanged {fault : ParameterFault} (effect : Effect s call (.error fault) t) : t = s := by
  cases effect
  rfl

end Effect
end Call

namespace Store
variable {s : Store}

/-- The store that a row of calls leads to. -/
def after (s : Store) : List Call → Store
  | [] => s
  | call :: rest => (call.on s).2.after rest

/-- The outcomes of a row of calls. -/
def outcomes (s : Store) : List Call → List (Except ParameterFault Unit)
  | [] => []
  | call :: rest => (call.on s).1 :: (call.on s).2.outcomes rest

/-- The names that a row of calls has bound, in the order of the calls. -/
def boundBy (s : Store) (calls : List Call) : List String :=
  (calls.zip (s.outcomes calls)).filterMap fun (call, outcome) => call.bound? outcome

theorem boundBy_cons (call : Call) (rest : List Call) : s.boundBy (call :: rest) =
    (call.bound? (call.on s).1).toList ++ (call.on s).2.boundBy rest := by
  simp only [boundBy, outcomes, List.zip_cons_cons, List.filterMap_cons]
  cases call.bound? (call.on s).1 <;> rfl

/-- By induction on the calls: each of them leads from one store that can be reached to
another one, and adds what it binds. -/
theorem Reached.after (reached : s.Reached) (calls : List Call) : (s.after calls).Reached := by
  induction calls generalizing s with
  | nil => exact reached
  | cons call rest ih => exact ih ((call.effect_on s).reached reached)

theorem catalogue_after (calls : List Call) : (s.after calls).catalogue = s.catalogue := by
  induction calls generalizing s with
  | nil => rfl
  | cons call rest ih => exact ih.trans (call.effect_on s).catalogue

theorem parameters_after (calls : List Call) : ∃ added : List Parameter,
    (s.after calls).parameters = s.parameters ++ added ∧ added.map (·.name) = s.boundBy calls := by
  induction calls generalizing s with
  | nil => exact ⟨[], (List.append_nil _).symm, rfl⟩
  | cons call rest ih =>
    obtain ⟨first, here, named⟩ := (call.effect_on s).parameters
    obtain ⟨others, later, alsoNamed⟩ := ih (s := (call.on s).2)
    refine ⟨first ++ others, ?_, ?_⟩
    · rw [after, later, here, List.append_assoc]
    · rw [List.map_append, named, alsoNamed, boundBy_cons]

theorem after_of_frozen (closed : s.frozen = true) (calls : List Call) :
    s.after calls = s ∧ s.outcomes calls = calls.map Call.whenFrozen := by
  induction calls with
  | nil => exact ⟨rfl, rfl⟩
  | cons call rest ih =>
    rw [after, outcomes, call.on_of_frozen closed, ih.1, ih.2]
    exact ⟨rfl, rfl⟩

/-- A name that is bound is refused when it is to be bound again. -/
theorem Reached.names_nodup (reached : s.Reached) : (s.parameters.map (·.name)).Nodup := by
  induction reached with
  | create catalogue primitives => exact List.nodup_nil
  | @bind s t name kind raw p _ bound ih =>
    obtain ⟨-, -, fresh, setting, -, rfl, rfl⟩ := bind_eq_ok_iff.mp bound
    have unbound : name ∉ s.parameters.map (·.name) := by
      simpa [isBound, find?] using fresh
    rw [List.map_append]
    exact ih.append (List.nodup_singleton _) (List.disjoint_singleton.mpr unbound)
  | setPrimitives _ changed ih =>
    rw [setPrimitives_eq_ok changed]
    exact ih
  | freeze _ ih => exact ih

/-- What holds of a store at any time: no name is bound twice, every setting is one that its
kind admits, and with a catalogue every name is bound as the catalogue says. -/
structure Sound (catalogue : Option Catalogue) (s : Store) : Prop where
  distinct : (s.parameters.map (·.name)).Nodup
  admitted : ∀ p ∈ s.parameters, p.kind.admits p.setting = true
  listed : ∀ c, catalogue = some c →
    ∀ p ∈ s.parameters, ∃ spec, c.find? p.name = some spec ∧ spec.kind = p.kind

/-- Whatever calls have been made on a new store, it is sound; its parameters stand in the
order in which their names were bound; a call that is refused changes nothing; what is bound
stays as it is whatever calls follow; and once it is frozen, it is not changed any more and
refuses every binding and every set of primitives. -/
theorem sound_after (catalogue : Option Catalogue) (primitives : Option (List String))
    (calls : List Call) :
    let start := create catalogue primitives
    let s := start.after calls
    Sound catalogue s ∧
    s.parameters.map (·.name) = start.boundBy calls ∧
    (∀ (call : Call) (fault : ParameterFault), (call.on s).1 = .error fault → (call.on s).2 = s) ∧
    (∀ later, s.parameters <+: (s.after later).parameters) ∧
    ∀ later, s.after (.freeze :: later) = s.freeze ∧
      s.outcomes (.freeze :: later) = .ok () :: later.map Call.whenFrozen := by
  intro start s
  have reached : s.Reached := (Reached.create catalogue primitives).after calls
  have followed : s.catalogue = catalogue := catalogue_after calls
  refine ⟨⟨reached.names_nodup, fun p member => (reached.fits p member).admitted, ?_⟩, ?_, ?_, ?_, ?_⟩
  · intro c given p member
    exact (reached.fits p member).listed c (followed.trans given)
  · obtain ⟨added, parameters, named⟩ := parameters_after (s := start) calls
    rw [parameters, List.map_append, named]
    rfl
  · intro call fault refused
    have effect := call.effect_on s
    rw [refused] at effect
    exact effect.unchanged
  · intro later
    obtain ⟨added, parameters, -⟩ := parameters_after (s := s) later
    exact ⟨added, parameters.symm⟩
  · intro later
    obtain ⟨state, outcomes⟩ := after_of_frozen (s := s.freeze) rfl later
    exact ⟨state, congrArg (Except.ok () :: ·) outcomes⟩

/-- Of four bindings the second is refused since its name is bound, and the third since a
number is no path. -/
example : (create none none).boundBy [.bind "B" "bool" (.text "true"), .bind "B" "int" (.int 1),
    .bind "A" "path" (.int 1), .bind "A" "optional_path" .null] = ["B", "A"] := by decide

end Store
end SandboxProfile
