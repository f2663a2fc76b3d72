import SandboxProfile.Policy.Compose
import SandboxProfile.Proofs.Upheld

/-! Mentions: what a policy asks of a store. Whatever is resolved from a policy comes from
the answers to what stands in it, so a store that upholds those answers upholds the
outcome. -/
namespace SandboxProfile

inductive Mention where
  | parameter (name : String)
  | primitive (name : String)
  deriving Repr, DecidableEq

namespace Guard

mutual
def mentions : Guard → List Mention
  | .compare param _ _ => [.parameter param]
  | .equals param _ => [.parameter param]
  | .isTrue param => [.parameter param]
  | .isSet param => [.parameter param]
  | .defined primitive => [.primitive primitive]
  | .all terms => mentionsOf terms
  | .any terms => mentionsOf terms
  | .not term => mentions term
  | .always => []
  | .stray _ => []

def mentionsOf : List Guard → List Mention
  | [] => []
  | g :: rest => mentions g ++ mentionsOf rest
end

end Guard

def Template.mentions (parts : Template) : List Mention :=
  parts.flatMap fun
    | .fixed _ => []
    | .ref r => [.parameter r.param]

def Arg.mentions : Arg → List Mention
  | .template parts => parts.mentions
  | .regex (.template parts) => parts.mentions
  | _ => []

namespace Filter

mutual
def mentions : Filter → List Mention
  | .only _ first others => (first :: others).flatMap Arg.mentions
  | .all filters => mentionsOf filters
  | .any filters => mentionsOf filters
  | .not filter => mentions filter
  | .stray _ => []

def mentionsOf : List Filter → List Mention
  | [] => []
  | f :: rest => mentions f ++ mentionsOf rest
end

end Filter

def Statement.mentions (a : Statement) : List Mention :=
  Filter.mentionsOf a.filters ++ a.scope.toList.flatMap Filter.mentions

namespace Node

mutual
def mentions : Node → List Mention
  | .leaf a => a.mentions
  | .guarded guard body otherwise => guard.mentions ++ mentionsOf body ++ mentionsOf otherwise
  | .stray _ => []

def mentionsOf : List Node → List Mention
  | [] => []
  | node :: rest => mentions node ++ mentionsOf rest
end

end Node

def Fragment.mentions (f : Fragment) : List Mention := f.guard.mentions ++ Node.mentionsOf f.body

def Library.mentions (l : Library) : List Mention :=
  l.fragments.flatMap Fragment.mentions ++ l.aliases.flatMap fun a => a.guard.mentions

/-- The answer of one store is upheld by another store. -/
def Store.Upholds (excused : Prop) (s t : Store) : Mention → Prop
  | .parameter name => Upheld excused (s.setting name) (t.setting name)
  | .primitive name => Upheld excused (s.defines name) (t.defines name)

variable {excused : Prop} {s t : Store}

namespace Guard

theorem compareHolds_upheld {param : String}
    (answers : s.Upholds excused t (.parameter param)) (op : Comparison) (value : Int) :
    Upheld excused (compareHolds s param op value) (compareHolds t param op value) :=
  Upheld.bind answers fun _ => .refl _

theorem toggleHolds_upheld {param : String} (answers : s.Upholds excused t (.parameter param)) :
    Upheld excused (toggleHolds s param) (toggleHolds t param) :=
  Upheld.bind answers fun _ => .refl _

theorem isSet_upheld {param : String} (answers : s.Upholds excused t (.parameter param)) :
    Upheld excused (s.isSet param) (t.isSet param) := by
  rw [Store.isSet_eq, Store.isSet_eq]
  exact Upheld.map answers _

mutual
/-- By induction on the guard. Terms behind the one that decides are not looked at in
either store, since they decide at the same term. -/
theorem evaluate_upheld : ∀ g : Guard, (∀ m ∈ g.mentions, s.Upholds excused t m) →
    Upheld excused (g.evaluate s) (g.evaluate t)
  | .always, _ => .refl _
  | .compare _ op value, answers =>
    (compareHolds_upheld (answers _ List.mem_cons_self) op value).mapError _
  | .equals param _, answers =>
    (Upheld.map (answers (.parameter param) List.mem_cons_self) _).mapError _
  | .isTrue _, answers => (toggleHolds_upheld (answers _ List.mem_cons_self)).mapError _
  | .isSet _, answers => (isSet_upheld (answers _ List.mem_cons_self)).mapError _
  | .defined primitive, answers =>
    Upheld.mapError (answers (.primitive primitive) List.mem_cons_self) _
  | .all terms, answers => evaluateAll_upheld terms answers
  | .any terms, answers => evaluateAny_upheld terms answers
  | .not term, answers => (evaluate_upheld term answers).map _
  | .stray _, _ => .refl _

theorem evaluateAll_upheld : ∀ terms : List Guard,
    (∀ m ∈ mentionsOf terms, s.Upholds excused t m) →
    Upheld excused (evaluateAll s terms) (evaluateAll t terms)
  | [], _ => .refl _
  | g :: rest, answers => by
    obtain ⟨here, later⟩ := List.forall_mem_append.mp answers
    rw [evaluateAll_cons, evaluateAll_cons]
    exact (evaluate_upheld g here).branch (evaluateAll_upheld rest later) (.refl _)

theorem evaluateAny_upheld : ∀ terms : List Guard,
    (∀ m ∈ mentionsOf terms, s.Upholds excused t m) →
    Upheld excused (evaluateAny s terms) (evaluateAny t terms)
  | [], _ => .refl _
  | g :: rest, answers => by
    obtain ⟨here, later⟩ := List.forall_mem_append.mp answers
    rw [evaluateAny_cons, evaluateAny_cons]
    exact (evaluate_upheld g here).branch (.refl _) (evaluateAny_upheld rest later)
end

end Guard

theorem Ref.resolve_upheld {r : Ref} (answers : s.Upholds excused t (.parameter r.param)) :
    Upheld excused (r.resolve s) (r.resolve t) := by
  unfold Ref.resolve
  rcases answers with same | ⟨fine, e, failed⟩
  · rw [same]
    exact .refl _
  · rw [failed]
    exact .inr ⟨fine, _, rfl⟩

theorem Template.render_upheld {parts : Template}
    (answers : ∀ m ∈ parts.mentions, s.Upholds excused t m) :
    Upheld excused (Template.render s parts) (Template.render t parts) := by
  induction parts with
  | nil => exact .refl _
  | cons part rest ih =>
    obtain ⟨here, later⟩ := List.forall_mem_append.mp answers
    cases part with
    | fixed text => exact (ih later).map _
    | ref r =>
      refine (Ref.resolve_upheld (here _ List.mem_cons_self)).bind fun out => ?_
      cases out with
      | none => exact .refl _
      | some text => exact (ih later).map _

theorem Arg.instantiate_upheld {a : Arg} (answers : ∀ m ∈ a.mentions, s.Upholds excused t m) :
    Upheld excused (a.instantiate s) (a.instantiate t) := by
  cases a with
  | template parts => exact (Template.render_upheld answers).map _
  | regex pattern =>
    cases pattern with
    | fixed text => exact .refl _
    | template parts => exact (Template.render_upheld answers).map _
  | stray value => cases value <;> exact .refl _
  | _ => exact .refl _

theorem traverseOption_upheld {ε α β : Type} {f g : α → Except ε (Option β)} {items : List α}
    (step : ∀ a ∈ items, Upheld excused (f a) (g a)) :
    Upheld excused (traverseOption f items) (traverseOption g items) := by
  induction items with
  | nil => exact .refl _
  | cons a rest ih =>
    refine (step a List.mem_cons_self).bind fun out => ?_
    cases out with
    | none => exact .refl _
    | some b => exact (ih fun c member => step c (List.mem_cons_of_mem a member)).map _

namespace Filter

mutual
theorem instantiate_upheld : ∀ f : Filter, (∀ m ∈ f.mentions, s.Upholds excused t m) →
    Upheld excused (f.instantiate s) (f.instantiate t)
  | .only kind first others, answers => by
    have each := List.forall_mem_flatMap.mp answers
    unfold instantiate
    refine (Arg.instantiate_upheld (each first List.mem_cons_self)).bind fun out => ?_
    cases out with
    | none => exact .refl _
    | some a =>
      exact (traverseOption_upheld fun b member =>
        Arg.instantiate_upheld (each b (List.mem_cons_of_mem first member))).map _
  | .all filters, answers => by
    unfold instantiate
    exact (instantiateList_upheld filters answers).map _
  | .any filters, answers => by
    unfold instantiate
    exact (instantiateList_upheld filters answers).map _
  | .not filter, answers => by
    unfold instantiate
    exact (instantiate_upheld filter answers).map _
  | .stray _, _ => .refl _

theorem instantiateList_upheld : ∀ filters : List Filter,
    (∀ m ∈ mentionsOf filters, s.Upholds excused t m) →
    Upheld excused (instantiateList s filters) (instantiateList t filters)
  | [], _ => .refl _
  | f :: rest, answers => by
    obtain ⟨here, later⟩ := List.forall_mem_append.mp answers
    unfold instantiateList
    refine (instantiate_upheld f here).bind fun out => ?_
    cases out with
    | none => exact .refl _
    | some g => exact (instantiateList_upheld rest later).map _
end

end Filter

namespace Statement

theorem instantiateScope_upheld {scope : Option Filter}
    (answers : ∀ m ∈ scope.toList.flatMap Filter.mentions, s.Upholds excused t m) :
    Upheld excused (instantiateScope s scope) (instantiateScope t scope) := by
  cases scope with
  | none => exact .refl _
  | some f =>
    have inner := List.forall_mem_flatMap.mp answers f List.mem_cons_self
    exact (Filter.instantiate_upheld f inner).map _

theorem instantiate_upheld {a : Statement} (answers : ∀ m ∈ a.mentions, s.Upholds excused t m) :
    Upheld excused (a.instantiate s) (a.instantiate t) := by
  obtain ⟨filters, scope⟩ := List.forall_mem_append.mp answers
  refine (Filter.instantiateList_upheld a.filters filters).bind fun out => ?_
  cases out with
  | none => exact .refl _
  | some resolved => exact (instantiateScope_upheld scope).map _

end Statement

namespace Node

mutual
/-- By induction on the node, with the notes: both stores take one branch and leave out
one and the same statements. -/
theorem resolve_upheld (id : String) : ∀ node : Node,
    (∀ m ∈ node.mentions, s.Upholds excused t m) →
    (node.resolve s id).Upheld excused (node.resolve t id)
  | .leaf a, answers => by
    unfold resolve
    exact (Traced.Upheld.ofExcept (Statement.instantiate_upheld answers)).bind fun _ => .refl _
  | .guarded guard body otherwise, answers => by
    unfold resolve
    obtain ⟨front, second⟩ := List.forall_mem_append.mp answers
    obtain ⟨condition, first⟩ := List.forall_mem_append.mp front
    exact (Traced.Upheld.ofExcept (guard.evaluate_upheld condition)).branch
      (resolveList_upheld id body first) (resolveList_upheld id otherwise second)
  | .stray _, _ => .refl _

theorem resolveList_upheld (id : String) : ∀ nodes : List Node,
    (∀ m ∈ mentionsOf nodes, s.Upholds excused t m) →
    (resolveList s id nodes).Upheld excused (resolveList t id nodes)
  | [], _ => .refl _
  | node :: rest, answers => by
    unfold resolveList
    obtain ⟨here, later⟩ := List.forall_mem_append.mp answers
    refine (resolve_upheld id node here).bind fun _ => ?_
    exact (resolveList_upheld id rest later).bind fun _ => .refl _
end

end Node

theorem Fragment.resolve_upheld {f : Fragment} (answers : ∀ m ∈ f.mentions, s.Upholds excused t m) :
    (f.resolve s).Upheld excused (f.resolve t) := by
  unfold Fragment.resolve
  obtain ⟨condition, body⟩ := List.forall_mem_append.mp answers
  exact (Traced.Upheld.ofExcept (f.guard.evaluate_upheld condition)).branch
    ((Node.resolveList_upheld f.id f.body body).bind fun _ => .refl _) (.refl _)

end SandboxProfile
