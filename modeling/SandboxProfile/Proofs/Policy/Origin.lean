import SandboxProfile.Proofs.Form.Policy
import SandboxProfile.Proofs.Policy.Section

/-! Origins. Every statement of a document comes from one leaf of a fragment. It is there
if the conditions on the way to the leaf are met and no part of the leaf is absent, and but
for what stands inside its arguments it is as the leaf says. -/
namespace SandboxProfile

/-- Whether an argument is finished, so that it stays as it is. -/
def Arg.isFixed : Arg → Bool
  | .text _ | .symbol _ | .mode _ | .regex (.fixed _) => true
  | _ => false

namespace Filter

mutual
/-- A filter with nothing inside its arguments. -/
def skeleton : Filter → Filter
  | .only kind _ others => .only kind (.text "") (List.replicate others.length (.text ""))
  | .all filters => .all (skeletons filters)
  | .any filters => .any (skeletons filters)
  | .not filter => .not (skeleton filter)
  | .stray value => .stray value

def skeletons : List Filter → List Filter
  | [] => []
  | f :: rest => skeleton f :: skeletons rest
end

mutual
/-- The kinds of filter that a filter is put together from. -/
def kinds : Filter → List FilterKind
  | .only kind _ _ => [kind]
  | .all filters => kindsOf filters
  | .any filters => kindsOf filters
  | .not filter => kinds filter
  | .stray _ => []

def kindsOf : List Filter → List FilterKind
  | [] => []
  | f :: rest => kinds f ++ kindsOf rest
end

mutual
theorem kinds_skeleton : ∀ f : Filter, f.skeleton.kinds = f.kinds
  | .only _ _ _ => rfl
  | .all filters => kindsOf_skeletons filters
  | .any filters => kindsOf_skeletons filters
  | .not filter => kinds_skeleton filter
  | .stray _ => rfl

theorem kindsOf_skeletons : ∀ filters : List Filter, kindsOf (skeletons filters) = kindsOf filters
  | [] => rfl
  | f :: rest => by
    rw [skeletons, kindsOf, kinds_skeleton f, kindsOf_skeletons rest, ← kindsOf]
end

theorem skeletons_eq_nil_iff {filters : List Filter} : skeletons filters = [] ↔ filters = [] := by
  cases filters <;> simp [skeletons]

end Filter

namespace Statement

def skeleton (a : Statement) : Statement :=
  { a with filters := Filter.skeletons a.filters, scope := a.scope.map Filter.skeleton }

/-- The kinds of filter in a statement, its scope included. -/
def kinds (a : Statement) : List FilterKind :=
  Filter.kindsOf a.filters ++ a.scope.toList.flatMap Filter.kinds

theorem kinds_skeleton (a : Statement) : a.skeleton.kinds = a.kinds := by
  unfold kinds skeleton
  cases a.scope <;> simp [Filter.kindsOf_skeletons, Filter.kinds_skeleton]

/-- Whether a statement is about an operation of some sort. -/
def concerns (sort : String → Bool) (a : Statement) : Bool := a.operations.any sort

section Skeleton
variable {a b : Statement} (same : b.skeleton = a.skeleton)
include same

theorem action_of_skeleton : b.action = a.action := by
  have actions := congrArg action same
  exact actions

theorem operations_of_skeleton : b.operations = a.operations := by
  have rows := congrArg operations same
  exact rows

theorem modifiers_of_skeleton : b.modifiers = a.modifiers := by
  have rows := congrArg modifiers same
  exact rows

theorem filters_eq_nil_of_skeleton : b.filters = [] ↔ a.filters = [] := by
  have row := congrArg filters same
  have rows : Filter.skeletons b.filters = Filter.skeletons a.filters := row
  rw [← Filter.skeletons_eq_nil_iff, rows, Filter.skeletons_eq_nil_iff]

theorem isSome_scope_of_skeleton : b.scope.isSome = a.scope.isSome := by
  have scopes := congrArg (fun c : Statement => c.scope.isSome) same
  simpa [skeleton] using scopes

theorem concerns_of_skeleton (sort : String → Bool) : b.concerns sort = a.concerns sort := by
  rw [concerns, operations_of_skeleton same, concerns]

end Skeleton

/-- A sort of operations that no renaming leads into or out of stays as it is. -/
theorem concerns_rename {sort : String → Bool} {renames : List (String × String)}
    (kept : ∀ pair ∈ renames, sort pair.2 = sort pair.1) (a : Statement) :
    (a.rename renames).concerns sort = a.concerns sort := by
  have each (op : String) : sort ((renames.lookup op).getD op) = sort op := by
    cases found : renames.lookup op with
    | none => rfl
    | some target => exact kept _ (mem_of_lookup found)
  simp only [concerns, rename, List.any_map, Function.comp_def, each]

/-- Whether a statement is finished. -/
def isFixed (a : Statement) : Bool :=
  Filter.everyList Arg.isFixed a.filters && a.scope.all (Filter.every Arg.isFixed)

end Statement

section Instantiation
variable {store : Store}

theorem traverseOption_length {ε α β : Type} {f : α → Except ε (Option β)} {items : List α}
    {out : List β} (traversed : traverseOption f items = .ok (some out)) :
    out.length = items.length := by
  induction items generalizing out with
  | nil =>
    obtain rfl := Option.some.inj (Except.ok.inj traversed)
    rfl
  | cons a rest ih =>
    obtain ⟨b, -, others⟩ := Outcome.present_of_bind traversed rfl
    obtain ⟨bs, later, rfl⟩ := Outcome.mapOption_eq_ok.mp others
    rw [List.length_cons, List.length_cons, ih later]

namespace Filter

mutual
/-- Only arguments are resolved; how a filter is put together is not changed. -/
theorem skeleton_of_instantiate : ∀ {f g : Filter},
    f.instantiate store = .ok (some g) → g.skeleton = f.skeleton
  | .only kind first others, g, instantiated => by
    unfold instantiate at instantiated
    obtain ⟨a, -, rest⟩ := Outcome.present_of_bind instantiated rfl
    obtain ⟨args, traversed, rfl⟩ := Outcome.mapOption_eq_ok.mp rest
    rw [skeleton, skeleton, traverseOption_length traversed]
  | .all filters, g, instantiated => by
    unfold instantiate at instantiated
    obtain ⟨gs, inner, rfl⟩ := Outcome.mapOption_eq_ok.mp instantiated
    rw [skeleton, skeleton, skeletons_of_instantiateList inner]
  | .any filters, g, instantiated => by
    unfold instantiate at instantiated
    obtain ⟨gs, inner, rfl⟩ := Outcome.mapOption_eq_ok.mp instantiated
    rw [skeleton, skeleton, skeletons_of_instantiateList inner]
  | .not filter, g, instantiated => by
    unfold instantiate at instantiated
    obtain ⟨h, inner, rfl⟩ := Outcome.mapOption_eq_ok.mp instantiated
    rw [skeleton, skeleton, skeleton_of_instantiate inner]
  | .stray value, g, instantiated => by
    unfold instantiate at instantiated
    contradiction

theorem skeletons_of_instantiateList : ∀ {filters gs : List Filter},
    instantiateList store filters = .ok (some gs) → skeletons gs = skeletons filters
  | [], gs, instantiated => by
    obtain rfl := Option.some.inj (Except.ok.inj instantiated)
    rfl
  | f :: rest, gs, instantiated => by
    unfold instantiateList at instantiated
    obtain ⟨g, first, others⟩ := Outcome.present_of_bind instantiated rfl
    obtain ⟨hs, inner, rfl⟩ := Outcome.mapOption_eq_ok.mp others
    rw [skeletons, skeletons, skeleton_of_instantiate first, skeletons_of_instantiateList inner]
end

end Filter

theorem Arg.instantiate_of_isFixed {a : Arg} (finished : a.isFixed = true) :
    a.instantiate store = .ok (some a) := by
  cases a with
  | regex pattern =>
    cases pattern with
    | fixed text => rfl
    | template parts => contradiction
  | template parts => contradiction
  | stray value => contradiction
  | _ => rfl

theorem traverseOption_eq_some {ε α : Type} {f : α → Except ε (Option α)} {items : List α}
    (stays : ∀ a ∈ items, f a = .ok (some a)) : traverseOption f items = .ok (some items) := by
  induction items with
  | nil => rfl
  | cons a rest ih =>
    obtain ⟨here, later⟩ := List.forall_mem_cons.mp stays
    rw [traverseOption, here, Outcome.ok_bind, ih later]
    rfl

namespace Filter

mutual
theorem instantiate_of_isFixed : ∀ {f : Filter}, f.every Arg.isFixed = true →
    f.instantiate store = .ok (some f)
  | .only kind first others, finished => by
    simp only [every, Bool.and_eq_true, List.all_eq_true] at finished
    have row : traverseOption (Arg.instantiate store) others = .ok (some others) :=
      traverseOption_eq_some fun a member => Arg.instantiate_of_isFixed (finished.2 a member)
    rw [instantiate, Arg.instantiate_of_isFixed finished.1, Outcome.ok_bind, row]
    rfl
  | .all filters, finished => by
    rw [instantiate, instantiateList_of_isFixed finished]
    rfl
  | .any filters, finished => by
    rw [instantiate, instantiateList_of_isFixed finished]
    rfl
  | .not filter, finished => by
    rw [instantiate, instantiate_of_isFixed (f := filter) finished]
    rfl
  | .stray value, finished => by contradiction

theorem instantiateList_of_isFixed : ∀ {filters : List Filter},
    everyList Arg.isFixed filters = true → instantiateList store filters = .ok (some filters)
  | [], _ => rfl
  | f :: rest, finished => by
    simp only [everyList, Bool.and_eq_true] at finished
    rw [instantiateList, instantiate_of_isFixed finished.1, Outcome.ok_bind,
      instantiateList_of_isFixed finished.2]
    rfl
end

end Filter

namespace Statement
variable {a b : Statement}

theorem skeleton_of_instantiate (instantiated : a.instantiate store = .ok (some b)) :
    b.skeleton = a.skeleton := by
  obtain ⟨filters', filters, rest⟩ := Outcome.present_of_bind instantiated rfl
  obtain ⟨scope', narrowed, rfl⟩ := Outcome.mapOption_eq_ok.mp rest
  have scopes : scope'.map Filter.skeleton = a.scope.map Filter.skeleton := by
    cases present : a.scope with
    | none =>
      rw [present] at narrowed
      obtain rfl := Option.some.inj (Except.ok.inj narrowed)
      rfl
    | some f =>
      rw [present] at narrowed
      obtain ⟨g, inner, rfl⟩ := Outcome.mapOption_eq_ok.mp narrowed
      simp [Filter.skeleton_of_instantiate inner]
  simp only [skeleton, Filter.skeletons_of_instantiateList filters, scopes]

/-- What is finished is taken over as it is. -/
theorem instantiate_of_isFixed (finished : a.isFixed = true) :
    a.instantiate store = .ok (some a) := by
  simp only [isFixed, Bool.and_eq_true] at finished
  have narrowed : instantiateScope store a.scope = .ok (some a.scope) := by
    cases present : a.scope with
    | none => rfl
    | some f =>
      rw [present] at finished
      rw [instantiateScope, Filter.instantiate_of_isFixed finished.2]
      rfl
  rw [instantiate, Filter.instantiateList_of_isFixed finished.1, Outcome.ok_bind]
  simp only [narrowed, Except.map, Option.map_some]

end Statement
end Instantiation

/-- A guard, and what it has to evaluate to. -/
structure Condition where
  guard : Guard
  expected : Bool

/-- A leaf, and the conditions on the way to it. -/
structure Clause where
  conditions : List Condition
  statement : Statement

def Clause.under (condition : Condition) (c : Clause) : Clause :=
  { c with conditions := condition :: c.conditions }

mutual
def Node.clauses : Node → List Clause
  | .leaf a => [⟨[], a⟩]
  | .guarded guard body otherwise =>
    (Node.clausesOf body).map (Clause.under ⟨guard, true⟩) ++
      (Node.clausesOf otherwise).map (Clause.under ⟨guard, false⟩)
  | .stray _ => []

def Node.clausesOf : List Node → List Clause
  | [] => []
  | node :: rest => Node.clauses node ++ Node.clausesOf rest
end

def Fragment.clauses (f : Fragment) : List Clause :=
  (Node.clausesOf f.body).map (Clause.under ⟨f.guard, true⟩)

def Condition.isMet (store : Store) (c : Condition) : Bool := c.guard.holds store == c.expected

namespace Clause

def isInForce (store : Store) (c : Clause) : Bool := c.conditions.all (Condition.isMet store)

/-- The statement that a clause gives in a store, if it gives one. -/
def yield (store : Store) (c : Clause) : Option Statement :=
  if c.isInForce store then
    match c.statement.instantiate store with
    | .ok out => out
    | .error _ => none
  else none

variable {store : Store} {c : Clause} {a : Statement}

theorem yield_under (condition : Condition) (c : Clause) :
    (c.under condition).yield store = if condition.isMet store then c.yield store else none := by
  cases met : condition.isMet store <;> simp [yield, under, isInForce, met]

theorem filterMap_yield_under (condition : Condition) (clauses : List Clause) :
    (clauses.map (under condition)).filterMap (yield store) =
      if condition.isMet store then clauses.filterMap (yield store) else [] := by
  rw [List.filterMap_map]
  cases met : condition.isMet store with
  | true =>
    apply List.filterMap_congr
    intro c _
    simp [yield_under, met]
  | false => simp [yield_under, met]

theorem isInForce_of_yield (given : c.yield store = some a) : c.isInForce store = true := by
  unfold yield at given
  split at given
  · assumption
  · contradiction

theorem skeleton_of_yield (given : c.yield store = some a) :
    a.skeleton = c.statement.skeleton := by
  simp only [yield, isInForce_of_yield given, ↓reduceIte] at given
  split at given
  · next instantiated => exact Statement.skeleton_of_instantiate (given ▸ instantiated)
  · contradiction

theorem yield_of_isFixed (met : c.isInForce store = true) (finished : c.statement.isFixed = true) :
    c.yield store = some c.statement := by
  simp only [yield, met, ↓reduceIte, Statement.instantiate_of_isFixed finished]

end Clause

namespace Node
variable {store : Store}

mutual
/-- By induction on the node. Of two branches only the one that is taken has clauses whose
conditions are met. -/
theorem eq_yields_of_resolve (id : String) : ∀ {node : Node} {statements : List Statement},
    (node.resolve store id).result = .ok statements →
      statements = node.clauses.filterMap (Clause.yield store)
  | .leaf a, statements, resolved => by
    rw [resolve, Traced.result_bind, Traced.result_ofExcept] at resolved
    obtain ⟨out, instantiated, rest⟩ := Outcome.bind_eq_ok.mp resolved
    cases out with
    | none =>
      obtain rfl := Except.ok.inj rest
      simp [clauses, Clause.yield, Clause.isInForce, instantiated]
    | some b =>
      obtain rfl := Except.ok.inj rest
      simp [clauses, Clause.yield, Clause.isInForce, instantiated]
  | .guarded guard body otherwise, statements, resolved => by
    rw [resolve, Traced.result_bind, Traced.result_ofExcept] at resolved
    obtain ⟨holds, decided, branch⟩ := Outcome.bind_eq_ok.mp resolved
    have told : guard.holds store = holds := by rw [Guard.holds, decided]
    rw [clauses, List.filterMap_append, Clause.filterMap_yield_under, Clause.filterMap_yield_under]
    cases holds with
    | true => simpa [Condition.isMet, told] using eq_yields_of_resolveList id branch
    | false => simpa [Condition.isMet, told] using eq_yields_of_resolveList id branch
  | .stray value, statements, resolved => by
    rw [resolve, Traced.result_fail] at resolved
    contradiction

theorem eq_yields_of_resolveList (id : String) :
    ∀ {nodes : List Node} {statements : List Statement},
    (resolveList store id nodes).result = .ok statements →
      statements = (clausesOf nodes).filterMap (Clause.yield store)
  | [], statements, resolved => by
    obtain rfl := Except.ok.inj resolved
    rfl
  | node :: rest, statements, resolved => by
    simp only [resolveList, Traced.result_bind, Traced.result_pure] at resolved
    obtain ⟨here, first, later⟩ := Outcome.bind_eq_ok.mp resolved
    obtain ⟨others, second, whole⟩ := Outcome.bind_eq_ok.mp later
    obtain rfl := Except.ok.inj whole
    rw [clausesOf, List.filterMap_append, ← eq_yields_of_resolve id first,
      ← eq_yields_of_resolveList id second]
end

end Node

namespace Fragment
variable {store : Store} {f : Fragment}

/-- A fragment that resolves contributes what its clauses give. -/
theorem contribution_eq_yields {out : Option (List Statement)}
    (resolved : f.outcome store = .ok out) :
    f.contribution store = f.clauses.filterMap (Clause.yield store) := by
  have guard := guard_of_outcome resolved
  have told : f.guard.holds store = out.isSome := by rw [Guard.holds, guard]
  rw [clauses, Clause.filterMap_yield_under, contribution, resolved]
  cases out with
  | none => simp [Condition.isMet, told]
  | some statements =>
    rw [outcome_eq, guard] at resolved
    obtain ⟨body, inner, same⟩ := Outcome.map_eq_ok.mp resolved
    obtain rfl := Option.some.inj same
    simpa [Condition.isMet, told] using Node.eq_yields_of_resolveList f.id inner

end Fragment

namespace Library
variable {l : Library} {store : Store} {tier : Option Tier} {roles : List String}

/-- The renames of a composition, the last pair in force first. -/
def renames (l : Library) (store : Store) : List (String × String) :=
  (pairsInForce store l.aliases).reverse

theorem statements_eq_granted : (l.assembled store tier roles).statements =
    l.granted store (l.sequence tier roles) := rfl

theorem fragmentIds_eq_includedIds : (l.assembled store tier roles).fragmentIds =
    Fragment.includedIds store (l.sequence tier roles) := rfl

theorem granted_eq_map (fs : List Fragment) : l.granted store fs =
    (fs.flatMap (Fragment.contribution store)).map (Statement.rename (l.renames store)) := rfl

theorem mem_granted_iff {fs : List Fragment} (resolves : ∀ f ∈ fs, ∃ out, f.outcome store = .ok out)
    {a : Statement} : a ∈ l.granted store fs ↔ ∃ f ∈ fs, ∃ c ∈ f.clauses, ∃ b,
      c.yield store = some b ∧ b.rename (l.renames store) = a := by
  rw [granted_eq_map]
  simp only [List.mem_map, List.mem_flatMap]
  constructor
  · rintro ⟨b, ⟨f, inRow, contributed⟩, renamed⟩
    obtain ⟨out, resolved⟩ := resolves f inRow
    rw [Fragment.contribution_eq_yields resolved] at contributed
    obtain ⟨c, listed, given⟩ := List.mem_filterMap.mp contributed
    exact ⟨f, inRow, c, listed, b, given, renamed⟩
  · rintro ⟨f, inRow, c, listed, b, given, renamed⟩
    obtain ⟨out, resolved⟩ := resolves f inRow
    refine ⟨b, ⟨f, inRow, ?_⟩, renamed⟩
    rw [Fragment.contribution_eq_yields resolved]
    exact List.mem_filterMap.mpr ⟨c, listed, given⟩

/-- What can be told of the leaves of a row can be told of what the row grants. -/
theorem forall_mem_granted {fs : List Fragment}
    (resolves : ∀ f ∈ fs, ∃ out, f.outcome store = .ok out) {p : Statement → Prop}
    (told : ∀ f ∈ fs, ∀ c ∈ f.clauses, ∀ b : Statement, b.skeleton = c.statement.skeleton →
      p (b.rename (l.renames store))) : ∀ a ∈ l.granted store fs, p a := by
  intro a member
  obtain ⟨f, inRow, c, listed, b, given, rfl⟩ := (mem_granted_iff resolves).mp member
  exact told f inRow c listed b (Clause.skeleton_of_yield given)

/-- The statements of a document and where they come from. -/
theorem mem_statements_iff (resolves : l.Resolves store tier roles) {a : Statement} :
    a ∈ (l.assembled store tier roles).statements ↔
      ∃ f ∈ l.sequence tier roles, ∃ c ∈ f.clauses, ∃ b,
        c.yield store = some b ∧ b.rename (l.renames store) = a :=
  mem_granted_iff resolves.fragments

end Library
end SandboxProfile
