import SandboxProfile.Proofs.Policy.Origin

/-! Finished documents. No template of a library gets into a document, at no depth of a
filter and not in a scope, and apart from that every statement is put together as its leaf
is. A document can be written exactly if all of it is finished. -/
namespace SandboxProfile

/-- Whether an argument is one, and not some other value in the place of one. -/
def Arg.isProper : Arg → Bool
  | .stray _ => false
  | _ => true

def Statement.isProper (a : Statement) : Bool :=
  Filter.everyList Arg.isProper a.filters && a.scope.all (Filter.every Arg.isProper)

namespace Node

mutual
/-- Whether a node consists of nodes, filters and arguments throughout, in the branches that
are not taken as well. -/
def isProper : Node → Bool
  | .leaf a => a.isProper
  | .guarded _ body otherwise => areProper body && areProper otherwise
  | .stray _ => false

def areProper : List Node → Bool
  | [] => true
  | node :: rest => isProper node && areProper rest
end

end Node

def Library.isProper (l : Library) : Bool := l.fragments.all fun f => Node.areProper f.body

section Instantiation
variable {store : Store}

theorem Arg.isFixed_of_instantiate {a b : Arg} (proper : a.isProper = true)
    (instantiated : a.instantiate store = .ok (some b)) : b.isFixed = true := by
  cases a with
  | template parts =>
    obtain ⟨text, -, rfl⟩ := Outcome.mapOption_eq_ok.mp instantiated
    rfl
  | regex pattern =>
    cases pattern with
    | fixed text =>
      obtain rfl := Option.some.inj (Except.ok.inj instantiated)
      rfl
    | template parts =>
      obtain ⟨text, -, rfl⟩ := Outcome.mapOption_eq_ok.mp instantiated
      rfl
  | stray value => contradiction
  | text | symbol | mode =>
    obtain rfl := Option.some.inj (Except.ok.inj instantiated)
    rfl

theorem all_of_traverseOption {ε α β : Type} {f : α → Except ε (Option β)} {p : α → Bool}
    {q : β → Bool} (each : ∀ a b, p a = true → f a = .ok (some b) → q b = true) {items : List α}
    {out : List β} (held : items.all p = true) (traversed : traverseOption f items = .ok (some out)) :
    out.all q = true := by
  induction items generalizing out with
  | nil =>
    obtain rfl := Option.some.inj (Except.ok.inj traversed)
    rfl
  | cons a rest ih =>
    simp only [List.all_cons, Bool.and_eq_true] at held
    obtain ⟨b, first, others⟩ := Outcome.present_of_bind traversed rfl
    obtain ⟨bs, later, rfl⟩ := Outcome.mapOption_eq_ok.mp others
    rw [List.all_cons, each a b held.1 first, ih held.2 later, Bool.true_and]

namespace Filter
variable {p q : Arg → Bool}

mutual
/-- By induction on the filter: what instantiation does to one argument it does to all of
them, at any depth. -/
theorem every_of_instantiate
    (each : ∀ a b, p a = true → a.instantiate store = .ok (some b) → q b = true) :
    ∀ {f g : Filter}, f.every p = true → f.instantiate store = .ok (some g) → g.every q = true
  | .only kind first others, g, held, instantiated => by
    simp only [every, Bool.and_eq_true] at held
    unfold instantiate at instantiated
    obtain ⟨a, resolved, rest⟩ := Outcome.present_of_bind instantiated rfl
    obtain ⟨args, traversed, rfl⟩ := Outcome.mapOption_eq_ok.mp rest
    rw [every, each first a held.1 resolved, all_of_traverseOption each held.2 traversed,
      Bool.true_and]
  | .all filters, g, held, instantiated => by
    unfold instantiate at instantiated
    obtain ⟨gs, inner, rfl⟩ := Outcome.mapOption_eq_ok.mp instantiated
    exact everyList_of_instantiateList each held inner
  | .any filters, g, held, instantiated => by
    unfold instantiate at instantiated
    obtain ⟨gs, inner, rfl⟩ := Outcome.mapOption_eq_ok.mp instantiated
    exact everyList_of_instantiateList each held inner
  | .not filter, g, held, instantiated => by
    unfold instantiate at instantiated
    obtain ⟨h, inner, rfl⟩ := Outcome.mapOption_eq_ok.mp instantiated
    exact every_of_instantiate (f := filter) (g := h) each held inner
  | .stray value, g, held, _ => by contradiction

theorem everyList_of_instantiateList
    (each : ∀ a b, p a = true → a.instantiate store = .ok (some b) → q b = true) :
    ∀ {filters gs : List Filter}, everyList p filters = true →
      instantiateList store filters = .ok (some gs) → everyList q gs = true
  | [], gs, _, instantiated => by
    obtain rfl := Option.some.inj (Except.ok.inj instantiated)
    rfl
  | f :: rest, gs, held, instantiated => by
    simp only [everyList, Bool.and_eq_true] at held
    unfold instantiateList at instantiated
    obtain ⟨g, first, others⟩ := Outcome.present_of_bind instantiated rfl
    obtain ⟨hs, inner, rfl⟩ := Outcome.mapOption_eq_ok.mp others
    rw [everyList, every_of_instantiate each held.1 first,
      everyList_of_instantiateList each held.2 inner, Bool.true_and]
end

end Filter

namespace Statement
variable {a b : Statement}

theorem isFixed_of_instantiate (proper : a.isProper = true)
    (instantiated : a.instantiate store = .ok (some b)) : b.isFixed = true := by
  simp only [isProper, Bool.and_eq_true] at proper
  obtain ⟨filters', filters, rest⟩ := Outcome.present_of_bind instantiated rfl
  obtain ⟨scope', narrowed, rfl⟩ := Outcome.mapOption_eq_ok.mp rest
  have scope : scope'.all (Filter.every Arg.isFixed) = true := by
    cases present : a.scope with
    | none =>
      rw [present] at narrowed
      obtain rfl := Option.some.inj (Except.ok.inj narrowed)
      rfl
    | some f =>
      rw [present] at narrowed proper
      obtain ⟨g, inner, rfl⟩ := Outcome.mapOption_eq_ok.mp narrowed
      exact Filter.every_of_instantiate (fun _ _ => Arg.isFixed_of_instantiate) proper.2 inner
  have row := Filter.everyList_of_instantiateList (fun _ _ => Arg.isFixed_of_instantiate)
    proper.1 filters
  simp only [isFixed, row, scope, Bool.true_and]

end Statement
end Instantiation

/-! ### Writing -/

/-- Only what is finished has a written form. -/
theorem Arg.isFixed_iff {a : Arg} : a.isFixed = true ↔ ∃ text, a.render = .ok text := by
  cases a with
  | regex pattern => cases pattern <;> simp [isFixed, render]
  | _ => simp [isFixed, render]

namespace Filter

mutual
theorem every_isFixed_iff : ∀ {f : Filter},
    f.every Arg.isFixed = true ↔ ∃ text, f.render = .ok text
  | .only kind first others => by
    rw [every, render, Outcome.exists_bind_pure, Outcome.exists_mapM, List.forall_mem_cons,
      ← Arg.isFixed_iff, Bool.and_eq_true, List.all_eq_true]
    simp only [Arg.isFixed_iff]
  | .all filters => by
    rw [every, render, Outcome.exists_bind_pure]
    exact everyList_isFixed_iff
  | .any filters => by
    rw [every, render, Outcome.exists_bind_pure]
    exact everyList_isFixed_iff
  | .not filter => by
    rw [every, render, Outcome.exists_bind_pure]
    exact every_isFixed_iff
  | .stray value => by simp [every, render]

theorem everyList_isFixed_iff : ∀ {filters : List Filter},
    everyList Arg.isFixed filters = true ↔ ∃ texts, renderList filters = .ok texts
  | [] => by simp [everyList, renderList]
  | f :: rest => by
    rw [everyList, renderList, Bool.and_eq_true, every_isFixed_iff, everyList_isFixed_iff,
      Outcome.exists_bind]
    simp only [Outcome.exists_bind_pure, exists_and_right]
end

end Filter

namespace Statement
variable {a : Statement}

theorem exists_renderBare (depth : Nat) : (∃ text, a.renderBare depth = .ok text) ↔
    Filter.everyList Arg.isFixed a.filters = true := by
  rw [renderBare, Outcome.exists_bind, Filter.everyList_isFixed_iff]
  refine exists_congr fun texts => and_iff_left ?_
  dsimp only
  split <;> exact ⟨_, rfl⟩

theorem isFixed_iff {depth : Nat} : a.isFixed = true ↔ ∃ text, a.render depth = .ok text := by
  unfold render isFixed
  cases a.scope with
  | none => simp [exists_renderBare]
  | some f =>
    rw [Bool.and_eq_true, Option.all_some, Filter.every_isFixed_iff,
      ← exists_renderBare (depth + 1), Outcome.exists_bind]
    simp only [Outcome.exists_bind_pure, exists_and_right]

end Statement

/-- A document can be written exactly if no template is left in it. -/
theorem Document.exists_emit_iff {d : Document} :
    (∃ text, d.emit = .ok text) ↔ ∀ a ∈ d.statements, a.isFixed = true := by
  rw [emit, Outcome.exists_bind_pure, renderStatements, Outcome.exists_mapM]
  simp only [← Statement.isFixed_iff]

/-! ### Leaves -/

/-- The leaves of a fragment in their order, those of all branches. -/
def Fragment.leaves (f : Fragment) : List Statement := f.clauses.map (·.statement)

namespace Node

mutual
theorem isProper_clauses : ∀ {node : Node}, node.isProper = true →
    ∀ c ∈ node.clauses, c.statement.isProper = true
  | .leaf a, proper, c, member => by
    rw [clauses, List.mem_singleton] at member
    rwa [member]
  | .guarded guard body otherwise, proper, c, member => by
    simp only [isProper, Bool.and_eq_true] at proper
    rcases List.mem_append.mp member with first | second
    · obtain ⟨inner, listed, rfl⟩ := List.mem_map.mp first
      exact areProper_clausesOf proper.1 inner listed
    · obtain ⟨inner, listed, rfl⟩ := List.mem_map.mp second
      exact areProper_clausesOf proper.2 inner listed
  | .stray value, proper, _, _ => by contradiction

theorem areProper_clausesOf : ∀ {nodes : List Node}, areProper nodes = true →
    ∀ c ∈ clausesOf nodes, c.statement.isProper = true
  | [], _, c, member => by contradiction
  | node :: rest, proper, c, member => by
    simp only [areProper, Bool.and_eq_true] at proper
    rcases List.mem_append.mp member with here | later
    · exact isProper_clauses proper.1 c here
    · exact areProper_clausesOf proper.2 c later
end

end Node

theorem Fragment.isProper_clauses {f : Fragment} (proper : Node.areProper f.body = true) :
    ∀ c ∈ f.clauses, c.statement.isProper = true := by
  intro c member
  obtain ⟨inner, listed, rfl⟩ := List.mem_map.mp member
  exact Node.areProper_clausesOf proper inner listed

/-- A statement of a document that came from a leaf: it is the leaf with its templates filled
in and its operations renamed, and it is put together as the leaf is. -/
structure Statement.Realizes (store : Store) (renames : List (String × String))
    (leaf a : Statement) : Prop where
  filled : ∃ b, leaf.instantiate store = .ok (some b) ∧ b.rename renames = a
  action : a.action = leaf.action
  modifiers : a.modifiers = leaf.modifiers
  filters : Filter.skeletons a.filters = Filter.skeletons leaf.filters
  scope : a.scope.map Filter.skeleton = leaf.scope.map Filter.skeleton

namespace Clause
variable {store : Store} {c : Clause} {b : Statement}

theorem instantiate_of_yield (given : c.yield store = some b) :
    c.statement.instantiate store = .ok (some b) := by
  simp only [yield, isInForce_of_yield given, ↓reduceIte] at given
  split at given
  · next instantiated => rw [instantiated, given]
  · contradiction

theorem realizes_of_yield (given : c.yield store = some b) (renames : List (String × String)) :
    Statement.Realizes store renames c.statement (b.rename renames) := by
  have same := skeleton_of_yield given
  exact {
    filled := ⟨b, instantiate_of_yield given, rfl⟩
    action := (Statement.action_of_skeleton same :)
    modifiers := (Statement.modifiers_of_skeleton same :)
    filters := congrArg Statement.filters same
    scope := congrArg Statement.scope same }

/-- What clauses yield comes from some of their leaves, in the order of the leaves. -/
theorem exists_realized (store : Store) (renames : List (String × String)) (clauses : List Clause) :
    ∃ leaves, leaves.Sublist (clauses.map (·.statement)) ∧
      List.Forall₂ (Statement.Realizes store renames) leaves
        ((clauses.filterMap (yield store)).map (Statement.rename renames)) := by
  induction clauses with
  | nil => exact ⟨[], .slnil, .nil⟩
  | cons c rest ih =>
    obtain ⟨leaves, part, row⟩ := ih
    cases given : c.yield store with
    | none =>
      rw [List.filterMap_cons_none given]
      exact ⟨leaves, part.cons _, row⟩
    | some b =>
      rw [List.filterMap_cons_some given, List.map_cons]
      exact ⟨c.statement :: leaves, part.cons_cons _, .cons (realizes_of_yield given renames) row⟩

end Clause

namespace Library
variable {l : Library} {store : Store} {tier : Option Tier} {roles : List String}

/-- The leaves of the fragments of a composition, in their order. -/
def leaves (l : Library) (tier : Option Tier) (roles : List String) : List Statement :=
  (l.sequence tier roles).flatMap Fragment.leaves

theorem granted_eq_yields {fs : List Fragment}
    (resolves : ∀ f ∈ fs, ∃ out, f.outcome store = .ok out) : l.granted store fs =
      ((fs.flatMap Fragment.clauses).filterMap (Clause.yield store)).map
        (Statement.rename (l.renames store)) := by
  rw [granted_eq_map, List.filterMap_flatMap]
  congr 1
  apply List.flatMap_congr
  intro f member
  obtain ⟨out, resolved⟩ := resolves f member
  exact Fragment.contribution_eq_yields resolved

theorem exists_realized (resolves : l.Resolves store tier roles) :
    ∃ leaves, leaves.Sublist (l.leaves tier roles) ∧
      List.Forall₂ (Statement.Realizes store (l.renames store)) leaves
        (l.assembled store tier roles).statements := by
  rw [statements_eq_granted, granted_eq_yields resolves.fragments]
  have whole : l.leaves tier roles =
      ((l.sequence tier roles).flatMap Fragment.clauses).map (·.statement) := by
    rw [List.map_flatMap]
    rfl
  rw [whole]
  exact Clause.exists_realized store (l.renames store) _

theorem isFixed_of_mem_statements (proper : l.isProper = true)
    (resolves : l.Resolves store tier roles) :
    ∀ a ∈ (l.assembled store tier roles).statements, a.isFixed = true := by
  intro a member
  obtain ⟨f, inRow, c, listed, b, given, rfl⟩ := (mem_statements_iff resolves).mp member
  have bodies := List.all_eq_true.mp proper f (mem_fragments_of_mem_sequence inRow)
  have leaf := Fragment.isProper_clauses bodies c listed
  exact (Statement.isFixed_of_instantiate leaf (Clause.instantiate_of_yield given) :)

/-- A document of a library that consists of nodes, filters and arguments is finished: no
template is left in it, its statements come one by one from leaves of its fragments and are
put together as these are, and it has a text. -/
theorem compose_finished {requested : Value} {d : Document} (proper : l.isProper = true)
    (composed : (l.compose store requested roles).result = .ok d) :
    (∀ a ∈ d.statements, a.isFixed = true) ∧
    (∃ leaves, leaves.Sublist (l.leaves d.tier d.roles) ∧
      List.Forall₂ (Statement.Realizes store (l.renames store)) leaves d.statements) ∧
    ∃ text, d.emit = .ok text := by
  obtain ⟨tier, -, -, -, resolves, rfl⟩ := compose_eq_ok_iff.mp composed
  have finished := isFixed_of_mem_statements proper resolves
  exact ⟨finished, exists_realized resolves, Document.exists_emit_iff.mpr finished⟩

/-- Templates under every kind of filter and in a scope, and one that is absent. The branch
that is not taken has one for a toggle. -/
def nestedLibrary : Library where
  name := "nested"
  posture := ⟨"posture", [.leaf ⟨.deny, ["default"], [], ["no-log"], none⟩], .always, ""⟩
  base := [⟨"paths",
    [.guarded (.isTrue "LOG")
      [.leaf ⟨.allow, ["signal"], [.only .literal (.template [.ref ⟨"LOG", false, false⟩]) []],
        [], none⟩]
      [.leaf ⟨.allow, ["file-read*"],
        [.all [.not (.only .literal (.template [.fixed "/home/", .ref ⟨"USER", false, true⟩]) []),
          .any [.only .regex (.regex (.template [.fixed "^", .ref ⟨"CACHE", true, false⟩]))
            [.mode 4]]]],
        ["report"],
        some (.only .target (.template [.ref ⟨"USER", false, false⟩]) [.symbol "self"])⟩],
      .leaf ⟨.allow, ["file-write*"],
        [.only .subpath (.template [.ref ⟨"SCRATCH", false, false⟩]) []], [], none⟩], .always, ""⟩]
  tiers := []
  addenda := []
  aliases := [⟨.isSet "CACHE", [("file-read*", "file-read-data")]⟩]
  ids_nodup := by decide

def nestedStore : Store :=
  ⟨none, [⟨"LOG", .bool, some (.flag false)⟩, ⟨"USER", .string, some (.text "u")⟩,
    ⟨"CACHE", .path, some (.text "/c.d")⟩, ⟨"SCRATCH", .optionalPath, none⟩], none, true⟩

def nestedDocument : Document where
  statements :=
    [⟨.deny, ["default"], [], ["no-log"], none⟩,
      ⟨.allow, ["file-read-data"],
        [.all [.not (.only .literal (.text "/home/u") []),
          .any [.only .regex (.regex (.fixed "^/c\\.d")) [.mode 4]]]],
        ["report"], some (.only .target (.text "u") [.symbol "self"])⟩]
  tier := none
  roles := []
  fragmentIds := ["posture", "paths"]
  library := "nested"

theorem compose_finished_nested : nestedLibrary.isProper = true ∧
    (nestedLibrary.compose nestedStore .null []).result = .ok nestedDocument ∧
    (∀ a ∈ nestedDocument.statements, a.isFixed = true) ∧
    (∃ leaves, leaves.Sublist (nestedLibrary.leaves none []) ∧
      List.Forall₂ (Statement.Realizes nestedStore (nestedLibrary.renames nestedStore)) leaves
        nestedDocument.statements) ∧
    ∃ text, nestedDocument.emit = .ok text := by
  have proper : nestedLibrary.isProper = true := by decide
  have composed : (nestedLibrary.compose nestedStore .null []).result = .ok nestedDocument := by
    rfl
  exact ⟨proper, composed, compose_finished proper composed⟩

end Library
end SandboxProfile
