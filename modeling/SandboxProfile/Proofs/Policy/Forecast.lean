import SandboxProfile.Proofs.Parameter.Outlook
import SandboxProfile.Proofs.Policy.Composition

/-! Forecasts of policies. What is known of the parameters before a store is filled tells
of many guards, templates and fragments how they end. A forecast goes through a fragment
as its resolution does, and takes both branches where only the store can decide. -/
namespace SandboxProfile

/-- The causes of a failure that can be told in advance. -/
inductive Lack where
  | unbound (name : String)
  | unset (name : String)
  deriving Repr, DecidableEq

def Lack.fault : Lack → PolicyFault
  | .unbound name => .parameter (.notBound name)
  | .unset name => .requiredUnset name

namespace Guard

mutual
def forecast (o : Outlook) : Guard → Forecast Lack (Option Bool)
  | .always => .gives (some true)
  | .compare param _ _ =>
    match o.shape param with
    | .unbound => .fails (.unbound param)
    | .number => .gives none
    | _ => .unsure
  | .equals param _ =>
    match o.shape param with
    | .unknown => .unsure
    | .unbound => .fails (.unbound param)
    | _ => .gives none
  | .isTrue param =>
    match o.shape param with
    | .unbound => .fails (.unbound param)
    | .flag told => .gives told
    | _ => .unsure
  | .isSet param =>
    match o.shape param with
    | .unknown => .unsure
    | .unbound => .fails (.unbound param)
    | .optionalText => .gives none
    | .unset => .gives (some false)
    | _ => .gives (some true)
  | .defined _ => if o.primitives then .gives none else .unsure
  | .all terms => forecastAll o terms
  | .any terms => forecastAny o terms
  | .not term => (forecast o term).bind fun told => .gives (told.map (!·))
  | .stray _ => .unsure

def forecastAll (o : Outlook) : List Guard → Forecast Lack (Option Bool)
  | [] => .gives (some true)
  | g :: rest => (forecast o g).branch joinTruth (forecastAll o rest) (.gives (some false))

def forecastAny (o : Outlook) : List Guard → Forecast Lack (Option Bool)
  | [] => .gives (some false)
  | g :: rest => (forecast o g).branch joinTruth (.gives (some true)) (forecastAny o rest)
end

variable {o : Outlook} {s : Store}

mutual
/-- A guard ends as its forecast says, by induction on it. -/
theorem forecast_meets (covers : o.Covers s) : ∀ g : Guard,
    (g.forecast o).Meets Lack.fault Tells (g.evaluate s)
  | .always => .gives (by simp [Tells])
  | .compare param op value => by
    have allows := covers.shape param
    simp only [forecast, evaluate, compareHolds]
    generalize o.shape param = shape, s.setting param = answer at allows
    cases allows with
    | unbound => exact .fails _
    | number i => exact .gives (by simp [Tells])
    | _ => exact .unsure _
  | .equals param value => by
    have allows := covers.shape param
    simp only [forecast, evaluate, equalsHolds]
    generalize o.shape param = shape, s.setting param = answer at allows
    cases allows with
    | unknown => exact .unsure _
    | unbound => exact .fails _
    | _ => exact .gives (by simp [Tells])
  | .isTrue param => by
    have allows := covers.shape param
    simp only [forecast, evaluate, toggleHolds]
    generalize o.shape param = shape, s.setting param = answer at allows
    cases allows with
    | unbound => exact .fails _
    | flag told => exact .gives told
    | _ => exact .unsure _
  | .isSet param => by
    have allows := covers.shape param
    simp only [forecast, evaluate, Store.isSet_eq]
    generalize o.shape param = shape, s.setting param = answer at allows
    cases allows with
    | unknown => exact .unsure _
    | unbound => exact .fails _
    | _ => exact .gives (by simp [Tells])
  | .defined primitive => by
    simp only [forecast, evaluate, Store.defines]
    split
    · next told =>
      obtain ⟨known, primitives⟩ := covers.primitives told
      rw [primitives]
      exact .gives (by simp [Tells])
    · exact .unsure _
  | .all terms => by
    simpa only [forecast, evaluate] using forecastAll_meets covers terms
  | .any terms => by
    simpa only [forecast, evaluate] using forecastAny_meets covers terms
  | .not term => by
    simp only [forecast, evaluate]
    refine (forecast_meets covers term).bind fun told holds related => .gives ?_
    simpa [Tells, and_comm] using related
  | .stray value => .unsure _

theorem forecastAll_meets (covers : o.Covers s) : ∀ terms : List Guard,
    (forecastAll o terms).Meets Lack.fault Tells (evaluateAll s terms)
  | [] => .gives (by simp [Tells])
  | g :: rest => by
    rw [forecastAll, evaluateAll_cons]
    have others := forecastAll_meets covers rest
    exact (forecast_meets covers g).branch others (.gives (by simp [Tells]))
      (fun _ _ _ => Tells.joinLeft) fun _ _ _ => Tells.joinRight

theorem forecastAny_meets (covers : o.Covers s) : ∀ terms : List Guard,
    (forecastAny o terms).Meets Lack.fault Tells (evaluateAny s terms)
  | [] => .gives (by simp [Tells])
  | g :: rest => by
    rw [forecastAny, evaluateAny_cons]
    have others := forecastAny_meets covers rest
    exact (forecast_meets covers g).branch (.gives (by simp [Tells])) others
      (fun _ _ _ => Tells.joinLeft) fun _ _ _ => Tells.joinRight
end

end Guard

/-- What a reference ends as. A number may be too long to be written. -/
def Ref.forecast (o : Outlook) (r : Ref) : Forecast Lack Bool :=
  match o.shape r.param with
  | .unbound => .fails (.unbound r.param)
  | .text => .gives true
  | .optionalText => if r.required then .unsure else .gives false
  | .unset => if r.required then .fails (.unset r.param) else .gives false
  | _ => .unsure

def Template.forecast (o : Outlook) : Template → Forecast Lack Bool
  | [] => .gives true
  | .fixed _ :: rest => Template.forecast o rest
  | .ref r :: rest => (r.forecast o).ifPresent (Template.forecast o rest)

def Arg.forecast (o : Outlook) : Arg → Forecast Lack Bool
  | .template t => t.forecast o
  | .regex (.template t) => t.forecast o
  | .stray .null => .gives false
  | _ => .gives true

def Arg.forecastList (o : Outlook) : List Arg → Forecast Lack Bool
  | [] => .gives true
  | a :: rest => (a.forecast o).ifPresent (forecastList o rest)

mutual
def Filter.forecast (o : Outlook) : Filter → Forecast Lack Bool
  | .only _ first others => (first.forecast o).ifPresent (Arg.forecastList o others)
  | .all filters => Filter.forecastList o filters
  | .any filters => Filter.forecastList o filters
  | .not filter => Filter.forecast o filter
  | .stray _ => .unsure

def Filter.forecastList (o : Outlook) : List Filter → Forecast Lack Bool
  | [] => .gives true
  | f :: rest => (Filter.forecast o f).ifPresent (Filter.forecastList o rest)
end

def Statement.forecast (o : Outlook) (s : Statement) : Forecast Lack Bool :=
  (Filter.forecastList o s.filters).ifPresent
    (s.scope.elim (.gives true) (Filter.forecast o))

mutual
def Node.forecast (o : Outlook) : Node → Forecast Lack Unit
  | .leaf s => (s.forecast o).bind fun _ => .gives ()
  | .guarded guard body otherwise =>
    (guard.forecast o).branch joinUntold (Node.forecastList o body) (Node.forecastList o otherwise)
  | .stray _ => .unsure

def Node.forecastList (o : Outlook) : List Node → Forecast Lack Unit
  | [] => .gives ()
  | node :: rest => (Node.forecast o node).bind fun _ => Node.forecastList o rest
end

def Fragment.forecast (o : Outlook) (f : Fragment) : Forecast Lack Unit :=
  (f.guard.forecast o).branch joinUntold (Node.forecastList o f.body) (.gives ())

section Soundness
variable {o : Outlook} {s : Store}

theorem Ref.forecast_meets (covers : o.Covers s) (r : Ref) :
    (r.forecast o).Meets Lack.fault Present (r.resolve s) := by
  have allows := covers.shape r.param
  unfold Ref.forecast Ref.resolve
  generalize o.shape r.param = shape, s.setting r.param = answer at allows
  cases allows with
  | unknown => exact .unsure _
  | unbound => exact .fails _
  | number _ => exact .unsure _
  | flag _ => exact .unsure _
  | text t => exact .gives (by simp [Present])
  | given t =>
    cases r.required with
    | true => exact .unsure _
    | false => exact .gives (by simp [Present])
  | notGiven =>
    cases r.required with
    | true => exact .unsure _
    | false => exact .gives (by simp [Present])
  | unset =>
    cases r.required with
    | true => exact .fails _
    | false => exact .gives (by simp [Present])

theorem Template.forecast_meets (covers : o.Covers s) (parts : Template) :
    (Template.forecast o parts).Meets Lack.fault Present (Template.render s parts) := by
  induction parts with
  | nil => exact .gives (by simp [Present])
  | cons part rest ih =>
    cases part with
    | fixed text => exact ih.mapSome _
    | ref r => exact (r.forecast_meets covers).ifPresent rfl fun text => ih.mapSome _

theorem Arg.forecast_meets (covers : o.Covers s) (a : Arg) :
    (a.forecast o).Meets Lack.fault Present (a.instantiate s) := by
  match a with
  | .template t => exact (t.forecast_meets covers).mapSome _
  | .regex (.template t) => exact (t.forecast_meets covers).mapSome _
  | .stray value => cases value <;> exact .gives (by simp [Present])
  | .text _ | .symbol _ | .mode _ | .regex (.fixed _) => exact .gives (by simp [Present])

theorem Arg.forecastList_meets (covers : o.Covers s) (args : List Arg) :
    (forecastList o args).Meets Lack.fault Present (traverseOption (Arg.instantiate s) args) := by
  induction args with
  | nil => exact .gives (by simp [Present])
  | cons a rest ih => exact (a.forecast_meets covers).ifPresent rfl fun b => ih.mapSome _

mutual
theorem Filter.forecast_meets (covers : o.Covers s) : ∀ f : Filter,
    (f.forecast o).Meets Lack.fault Present (f.instantiate s)
  | .only kind first others => by
    simp only [Filter.forecast, Filter.instantiate]
    exact (first.forecast_meets covers).ifPresent rfl fun a =>
      (Arg.forecastList_meets covers others).mapSome _
  | .all filters => by
    simp only [Filter.forecast, Filter.instantiate]
    exact (Filter.forecastList_meets covers filters).mapSome _
  | .any filters => by
    simp only [Filter.forecast, Filter.instantiate]
    exact (Filter.forecastList_meets covers filters).mapSome _
  | .not filter => by
    simp only [Filter.forecast, Filter.instantiate]
    exact (Filter.forecast_meets covers filter).mapSome _
  | .stray value => .unsure _

theorem Filter.forecastList_meets (covers : o.Covers s) : ∀ filters : List Filter,
    (forecastList o filters).Meets Lack.fault Present (instantiateList s filters)
  | [] => .gives (by simp [Present])
  | f :: rest => by
    simp only [Filter.forecastList, Filter.instantiateList]
    exact (Filter.forecast_meets covers f).ifPresent rfl fun a =>
      (Filter.forecastList_meets covers rest).mapSome _
end

theorem Statement.forecast_meets (covers : o.Covers s) (statement : Statement) :
    (statement.forecast o).Meets Lack.fault Present (statement.instantiate s) := by
  refine (Filter.forecastList_meets covers statement.filters).ifPresent rfl fun filters => ?_
  refine Forecast.Meets.mapSome ?_ _
  cases statement.scope with
  | none => exact .gives (by simp [Present])
  | some f => exact (f.forecast_meets covers).mapSome _

mutual
theorem Node.forecast_meets (covers : o.Covers s) (id : String) : ∀ node : Node,
    (node.forecast o).Meets Lack.fault Untold (node.resolve s id).result
  | .leaf statement => by
    simp only [Node.forecast, Node.resolve, Traced.result_bind, Traced.result_ofExcept]
    refine (statement.forecast_meets covers).bind fun told out _ => ?_
    cases out <;> exact .gives trivial
  | .guarded guard body otherwise => by
    simp only [Node.forecast, Node.resolve, Traced.result_bind, Traced.result_ofExcept]
    have decides := guard.forecast_meets covers
    have first := Node.forecastList_meets covers id body
    have second := Node.forecastList_meets covers id otherwise
    have ended : ((guard.forecast o).branch joinUntold _ _).Meets Lack.fault Untold _ :=
      decides.branch first second (fun _ _ _ _ => trivial) fun _ _ _ _ => trivial
    simpa only [apply_ite Traced.result] using ended
  | .stray value => .unsure _

theorem Node.forecastList_meets (covers : o.Covers s) (id : String) : ∀ nodes : List Node,
    (forecastList o nodes).Meets Lack.fault Untold (resolveList s id nodes).result
  | [] => .gives trivial
  | node :: rest => by
    simp only [Node.forecastList, Node.resolveList, Traced.result_bind]
    refine (Node.forecast_meets covers id node).bind fun _ here _ => ?_
    exact (Node.forecastList_meets covers id rest).map fun _ _ _ => trivial
end

theorem Fragment.forecast_meets (covers : o.Covers s) (f : Fragment) :
    (f.forecast o).Meets Lack.fault Untold (f.outcome s) := by
  rw [Fragment.outcome_eq]
  have body := Node.forecastList_meets covers f.id f.body
  exact (f.guard.forecast_meets covers).branch (body.map fun _ _ _ => trivial) (.gives trivial)
    (fun _ _ _ _ => trivial) fun _ _ _ _ => trivial

end Soundness

/-- What can be told to be wrong with a fragment in a row. -/
inductive Obstacle where
  | lacking (id : String) (lack : Lack)
  | repeated (id : String)
  deriving Repr, DecidableEq

def Obstacle.fault : Obstacle → ComposeFault
  | .lacking id lack => .inFragment id lack.fault
  | .repeated id => .duplicateFragment id

namespace Fragment

def forecastBehind (o : Outlook) (earlier : List String) (f : Fragment) : Forecast Obstacle Unit :=
  if f.id ∈ earlier then .fails (.repeated f.id)
  else
    match f.forecast o with
    | .gives _ => .gives ()
    | .fails lack => .fails (.lacking f.id lack)
    | .unsure => .unsure

def forecastRow (o : Outlook) (earlier : List String) : List Fragment → Forecast Obstacle Unit
  | [] => .gives ()
  | f :: rest => (f.forecastBehind o earlier).bind fun _ => forecastRow o (earlier ++ [f.id]) rest

/-- Success, unless there is a fault. -/
def verdict (fault : Option ε) : Except ε Unit :=
  match fault with
  | some e => .error e
  | none => .ok ()

variable {o : Outlook} {s : Store}

theorem forecastBehind_meets (covers : o.Covers s) (earlier : List String) (f : Fragment) :
    (f.forecastBehind o earlier).Meets Obstacle.fault Untold
      (verdict (f.faultBehind s earlier)) := by
  unfold forecastBehind faultBehind
  by_cases again : f.id ∈ earlier
  · simp only [again, ↓reduceIte]
    exact .fails _
  · simp only [again, ↓reduceIte]
    have meets := f.forecast_meets covers
    generalize f.forecast o = told at meets
    generalize f.outcome s = outcome at meets
    cases meets with
    | gives _ => exact .gives trivial
    | fails lack => exact .fails _
    | unsure _ => exact .unsure _

/-- By induction on the row. The first fragment that cannot be told to resolve decides. -/
theorem forecastRow_meets (covers : o.Covers s) (earlier : List String) (fs : List Fragment) :
    (forecastRow o earlier fs).Meets Obstacle.fault Untold
      (verdict (leftmost (faultsBehind s earlier fs))) := by
  induction fs generalizing earlier with
  | nil => exact .gives trivial
  | cons f rest ih =>
    have split : verdict (leftmost (faultsBehind s earlier (f :: rest))) =
        verdict (f.faultBehind s earlier) >>= fun _ =>
          verdict (leftmost (faultsBehind s (earlier ++ [f.id]) rest)) := by
      rw [faultsBehind_cons]
      cases f.faultBehind s earlier <;> rfl
    rw [split]
    exact (forecastBehind_meets covers earlier f).bind fun _ _ _ => ih (earlier ++ [f.id])

theorem leftmost_of_gives (covers : o.Covers s) {earlier : List String} {fs : List Fragment}
    (told : forecastRow o earlier fs = .gives ()) :
    leftmost (faultsBehind s earlier fs) = none := by
  have meets := forecastRow_meets covers earlier fs
  rw [told] at meets
  cases wrong : leftmost (faultsBehind s earlier fs) with
  | none => rfl
  | some fault =>
    rw [wrong] at meets
    cases meets

theorem leftmost_of_fails (covers : o.Covers s) {earlier : List String} {fs : List Fragment}
    {obstacle : Obstacle} (told : forecastRow o earlier fs = .fails obstacle) :
    leftmost (faultsBehind s earlier fs) = some obstacle.fault := by
  have meets := forecastRow_meets covers earlier fs
  rw [told] at meets
  cases wrong : leftmost (faultsBehind s earlier fs) with
  | none =>
    rw [wrong] at meets
    cases meets
  | some fault =>
    rw [wrong] at meets
    cases meets
    rfl

end Fragment
end SandboxProfile
