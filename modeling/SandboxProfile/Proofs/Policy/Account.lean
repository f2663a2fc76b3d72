import SandboxProfile.Proofs.Policy.Chosen
import SandboxProfile.Proofs.Policy.Demand
import SandboxProfile.Proofs.Policy.Visit

/-! The notes of a composition as an account of it. Of each fragment they give the statements that
were left out, then whether it was included and with how many statements, and the last of them the
totals. A composition that ends in a fragment has one note about that, and no other one has any. -/
namespace SandboxProfile

/-- A step that notes nothing leaves the notes to what comes behind it. -/
theorem Traced.notes_ofExcept_bind {ω ε α β : Type} {x : Except ε α} {a : α} (given : x = .ok a)
    (f : α → Traced ω ε β) : (Traced.ofExcept x >>= f).notes = (f a).notes := by
  subst given
  rfl

/-! ### What is left out -/

/-- Whether a template may do without a parameter, which is bound but not set. -/
def Ref.isAbsent (store : Store) (r : Ref) : Bool :=
  !r.required && (store.find? r.param).any fun p => p.setting.isNone

def Demand.isAbsent (store : Store) : Demand → Bool
  | .ref r => r.isAbsent store
  | .argument => true
  | .filter _ => false

theorem Demand.hindrance?_eq_skip_iff {store : Store} {demand : Demand} :
    demand.hindrance? store = some .skip ↔ demand.isAbsent store = true := by
  cases demand with
  | ref r =>
    rw [hindrance?, Ref.hindrance?, isAbsent, Ref.isAbsent]
    cases store.find? r.param with
    | none => simp
    | some p =>
      obtain ⟨name, kind, _ | setting⟩ := p
      · cases r.required <;> simp
      · cases setting <;> simp
  | argument => simp [hindrance?, isAbsent]
  | filter value => simp [hindrance?, isAbsent]

namespace Statement
variable {store : Store} {a : Statement} {out : Option Statement}

/-- Whether a statement asks for a parameter that may be unset and is, or has nothing in the place
of an argument. -/
def isOmitted (store : Store) (a : Statement) : Bool := a.demands.any (Demand.isAbsent store)

/-- Of the statements that resolve, those with something absent are left out. -/
theorem isNone_of_instantiate (resolved : a.instantiate store = .ok out) :
    out.isNone = a.isOmitted store := by
  rw [instantiate_eq, scan] at resolved
  cases first : a.demands.findSome? (Demand.hindrance? store) with
  | none =>
    rw [first] at resolved
    obtain rfl := Except.ok.inj resolved
    have met := List.findSome?_eq_none_iff.mp first
    refine (List.any_eq_false.mpr fun demand member absent => ?_).symm
    have skipped := Demand.hindrance?_eq_skip_iff.mpr absent
    rw [met demand member] at skipped
    contradiction
  | some hindrance =>
    rw [first] at resolved
    cases hindrance with
    | fault f => contradiction
    | skip =>
      obtain rfl := Except.ok.inj resolved
      obtain ⟨demand, member, skipped⟩ := List.exists_of_findSome?_eq_some first
      exact (List.any_eq_true.mpr
        ⟨demand, member, Demand.hindrance?_eq_skip_iff.mp skipped⟩).symm

/-- In a proper statement what is absent is a parameter. -/
theorem exists_ref_of_isOmitted (proper : a.isProper = true) (omitted : a.isOmitted store = true) :
    ∃ r, .ref r ∈ a.demands ∧ r.required = false ∧
      ∃ p, store.find? r.param = some p ∧ p.setting = none := by
  obtain ⟨demand, member, absent⟩ := List.any_eq_true.mp omitted
  obtain ⟨r, rfl⟩ := eq_ref_of_isProper proper member
  simp only [Demand.isAbsent, Ref.isAbsent, Bool.and_eq_true, Bool.not_eq_true',
    Option.any_eq_true, Option.isNone_iff_eq_none] at absent
  exact ⟨r, member, absent⟩

end Statement

namespace Clause
variable {store : Store}

/-- The statements of clauses in force that are left out. -/
def omitted (store : Store) (clauses : List Clause) : List Statement :=
  (clauses.filter fun c => c.isInForce store && c.statement.isOmitted store).map (·.statement)

theorem omitted_append (clauses others : List Clause) :
    omitted store (clauses ++ others) = omitted store clauses ++ omitted store others := by
  rw [omitted, List.filter_append, List.map_append]
  rfl

theorem omitted_under (condition : Condition) (clauses : List Clause) :
    omitted store (clauses.map (under condition)) =
      if condition.isMet store then omitted store clauses else [] := by
  unfold omitted
  rw [List.filter_map, List.map_map]
  cases met : condition.isMet store <;>
    simp [Function.comp_def, under, isInForce, met]

theorem isInForce_under (condition : Condition) (c : Clause) :
    (c.under condition).isInForce store = (condition.isMet store && c.isInForce store) := by
  rw [isInForce, under, List.all_cons, isInForce]

/-- Where every clause in force can be read, each of them gives a statement or is left out. By
induction on the clauses. -/
theorem length_yields {clauses : List Clause} (readable : ∀ c ∈ clauses,
    c.isInForce store = true → ∃ out, c.statement.instantiate store = .ok out) :
    (clauses.filterMap (yield store)).length + (omitted store clauses).length =
      (clauses.filter (isInForce store)).length := by
  induction clauses with
  | nil => rfl
  | cons c rest ih =>
    obtain ⟨here, later⟩ := List.forall_mem_cons.mp readable
    have others := ih later
    rw [omitted, List.length_map] at others ⊢
    cases met : c.isInForce store with
    | false => simpa [yield, met] using others
    | true =>
      obtain ⟨out, resolved⟩ := here met
      have absent := Statement.isNone_of_instantiate resolved
      cases out with
      | none =>
        have left : c.statement.isOmitted store = true := absent.symm
        simp only [List.filterMap_cons, List.filter_cons, yield, met, left, resolved, ↓reduceIte,
          Bool.and_self, List.length_cons]
        omega
      | some b =>
        have kept : c.statement.isOmitted store = false := absent.symm
        simp only [List.filterMap_cons, List.filter_cons, yield, met, kept, resolved, ↓reduceIte,
          Bool.and_false, Bool.false_eq_true, List.length_cons]
        omega

end Clause

namespace Node
variable {store : Store} {id : String}

mutual
/-- By induction on the node. What is read is the leaves in the branches that are taken. -/
theorem readable_of_resolve : ∀ {node : Node} {statements : List Statement},
    (node.resolve store id).result = .ok statements → ∀ c ∈ node.clauses,
      c.isInForce store = true → ∃ out, c.statement.instantiate store = .ok out
  | .leaf a, statements, resolved, c, member, _ => by
    rw [resolve, Traced.result_bind, Traced.result_ofExcept] at resolved
    obtain ⟨out, instantiated, -⟩ := Outcome.bind_eq_ok.mp resolved
    obtain rfl := List.mem_singleton.mp member
    exact ⟨out, instantiated⟩
  | .guarded guard body otherwise, statements, resolved, c, member, met => by
    rw [resolve, Traced.result_bind, Traced.result_ofExcept] at resolved
    obtain ⟨holds, decided, branch⟩ := Outcome.bind_eq_ok.mp resolved
    have told : guard.holds store = holds := by rw [Guard.holds, decided]
    rcases List.mem_append.mp member with inBody | inOther
    · obtain ⟨c, listed, rfl⟩ := List.mem_map.mp inBody
      rw [Clause.isInForce_under, Bool.and_eq_true, Condition.isMet, told, beq_iff_eq] at met
      obtain ⟨rfl, met⟩ := met
      exact readable_of_resolveList branch c listed met
    · obtain ⟨c, listed, rfl⟩ := List.mem_map.mp inOther
      rw [Clause.isInForce_under, Bool.and_eq_true, Condition.isMet, told, beq_iff_eq] at met
      obtain ⟨rfl, met⟩ := met
      exact readable_of_resolveList branch c listed met
  | .stray value, statements, resolved, c, member, _ => by contradiction

theorem readable_of_resolveList : ∀ {nodes : List Node} {statements : List Statement},
    (resolveList store id nodes).result = .ok statements → ∀ c ∈ clausesOf nodes,
      c.isInForce store = true → ∃ out, c.statement.instantiate store = .ok out
  | [], _, _, c, member, _ => by contradiction
  | node :: rest, statements, resolved, c, member, met => by
    simp only [resolveList, Traced.result_bind, Traced.result_pure] at resolved
    obtain ⟨here, first, later⟩ := Outcome.bind_eq_ok.mp resolved
    obtain ⟨others, second, -⟩ := Outcome.bind_eq_ok.mp later
    rcases List.mem_append.mp member with inNode | behind
    · exact readable_of_resolve first c inNode met
    · exact readable_of_resolveList second c behind met
end

mutual
/-- By induction on the node. Of two branches only the one that is taken has clauses in force, and
only that one is resolved. -/
theorem notes_of_resolve : ∀ {node : Node} {statements : List Statement},
    (node.resolve store id).result = .ok statements → (node.resolve store id).notes =
      (Clause.omitted store node.clauses).map fun a => .statementSkipped id a.operations
  | .leaf a, statements, resolved => by
    rw [resolve, Traced.result_bind, Traced.result_ofExcept] at resolved
    obtain ⟨out, instantiated, -⟩ := Outcome.bind_eq_ok.mp resolved
    have absent := Statement.isNone_of_instantiate instantiated
    rw [resolve, Traced.notes_ofExcept_bind instantiated, clauses, Clause.omitted,
      List.filter_singleton, ← absent]
    cases out <;> rfl
  | .guarded guard body otherwise, statements, resolved => by
    rw [resolve, Traced.result_bind, Traced.result_ofExcept] at resolved
    obtain ⟨holds, decided, branch⟩ := Outcome.bind_eq_ok.mp resolved
    have told : guard.holds store = holds := by rw [Guard.holds, decided]
    rw [resolve, Traced.notes_ofExcept_bind decided, clauses, Clause.omitted_append,
      Clause.omitted_under, Clause.omitted_under]
    cases holds with
    | true => simpa [Condition.isMet, told] using notesOf_of_resolveList branch
    | false => simpa [Condition.isMet, told] using notesOf_of_resolveList branch
  | .stray value, statements, resolved => by
    rw [resolve, Traced.result_fail] at resolved
    contradiction

theorem notesOf_of_resolveList : ∀ {nodes : List Node} {statements : List Statement},
    (resolveList store id nodes).result = .ok statements → (resolveList store id nodes).notes =
      (Clause.omitted store (clausesOf nodes)).map fun a => .statementSkipped id a.operations
  | [], _, _ => rfl
  | node :: rest, statements, resolved => by
    simp only [resolveList, Traced.result_bind, Traced.result_pure] at resolved
    obtain ⟨here, first, later⟩ := Outcome.bind_eq_ok.mp resolved
    obtain ⟨others, second, -⟩ := Outcome.bind_eq_ok.mp later
    rw [resolveList, Traced.notes_bind first, Traced.notes_bind second, clausesOf,
      Clause.omitted_append, List.map_append, notes_of_resolve first, notesOf_of_resolveList second]
    exact congrArg (_ ++ ·) (List.append_nil _)
end

end Node

namespace Fragment
variable {store : Store} {f : Fragment}

/-- A note for each statement in the branches of a fragment that are taken, in the order in which
they stand, if it is left out. -/
def omissions (store : Store) (f : Fragment) : List Event :=
  (Clause.omitted store f.clauses).map fun a => .statementSkipped f.id a.operations

theorem notes_eq {out : Option (List Statement)} (resolved : f.outcome store = .ok out) :
    f.notes store = f.omissions store ++ [f.closing store] := by
  have guard := guard_of_outcome resolved
  have told : f.guard.holds store = out.isSome := by rw [Guard.holds, guard]
  have inside : (f.resolve store).notes = f.omissions store := by
    rw [resolve, Traced.notes_ofExcept_bind guard, omissions, clauses, Clause.omitted_under]
    rw [outcome_eq, guard] at resolved
    cases out with
    | none => simp [Condition.isMet, told, pure, Traced.pure]
    | some statements =>
      obtain ⟨body, inner, -⟩ := Outcome.map_eq_ok.mp resolved
      simp only [Option.isSome_some, ↓reduceIte]
      rw [Traced.notes_bind inner, Node.notesOf_of_resolveList inner]
      simp [Condition.isMet, told, pure, Traced.pure]
  rw [notes, inside]

/-- Of the statements in the branches that are taken, each is either contributed or left out. -/
theorem length_contribution {out : Option (List Statement)} (resolved : f.outcome store = .ok out) :
    (f.contribution store).length + (f.omissions store).length =
      (f.clauses.filter (Clause.isInForce store)).length := by
  rw [contribution_eq_yields resolved, omissions, List.length_map]
  refine Clause.length_yields fun c member met => ?_
  obtain ⟨c, listed, rfl⟩ := List.mem_map.mp member
  rw [Clause.isInForce_under, Bool.and_eq_true, Condition.isMet, beq_iff_eq, Guard.holds_iff] at met
  rw [outcome_eq, met.1] at resolved
  obtain ⟨body, inner, -⟩ := Outcome.map_eq_ok.mp resolved
  exact Node.readable_of_resolveList inner c listed met.2

end Fragment

/-! ### The account -/

namespace Event

/-- The fragment that a note says is included, and the number of statements that it gives. -/
def inclusion? : Event → Option (String × Nat)
  | .included id statements => some (id, statements)
  | _ => none

def inclusions (notes : List Event) : List (String × Nat) := notes.filterMap inclusion?

end Event

namespace Fragment
variable {store : Store} {f : Fragment}

/-- What the notes of one fragment say: what was left out, and then how it ended. -/
def report (store : Store) (f : Fragment) : List Event := f.omissions store ++ [f.closing store]

theorem severity_of_mem_report {e : Event} (member : e ∈ f.report store) : e.severity = .debug := by
  rcases List.mem_append.mp member with inside | behind
  · obtain ⟨a, -, rfl⟩ := List.mem_map.mp inside
    rfl
  · obtain rfl := List.mem_singleton.mp behind
    unfold closing
    split <;> rfl

theorem inclusions_report : Event.inclusions (f.report store) =
    if f.guard.holds store then [(f.id, (f.contribution store).length)] else [] := by
  have inside : Event.inclusions (f.omissions store) = [] := by
    refine List.filterMap_eq_nil_iff.mpr fun e member => ?_
    obtain ⟨a, -, rfl⟩ := List.mem_map.mp member
    rfl
  rw [report, Event.inclusions, List.filterMap_append, ← Event.inclusions, inside, closing]
  cases f.guard.holds store <;> rfl

/-- A fragment whose guard is false gives nothing. -/
theorem contribution_of_not_holds (skipped : f.guard.holds store = false) :
    f.contribution store = [] := by
  unfold contribution
  split
  · next statements resolved =>
    rw [Guard.holds_iff.mpr (guard_of_outcome resolved)] at skipped
    contradiction
  · rfl

theorem inclusions_reports (store : Store) (fs : List Fragment) :
    (Event.inclusions (fs.flatMap (report store))).map (·.1) =
        (fs.filter fun f => f.guard.holds store).map (·.id) ∧
      ((Event.inclusions (fs.flatMap (report store))).map (·.2)).sum =
        (fs.flatMap (contribution store)).length := by
  induction fs with
  | nil => exact ⟨rfl, rfl⟩
  | cons f rest ih =>
    rw [List.flatMap_cons, Event.inclusions, List.filterMap_append, ← Event.inclusions,
      ← Event.inclusions, inclusions_report, List.flatMap_cons, List.length_append]
    cases holds : f.guard.holds store with
    | true => simpa [holds] using ih
    | false => simpa [holds, contribution_of_not_holds holds] using ih

end Fragment

namespace Library
variable {l : Library} {store : Store} {tier : Option Tier} {roles : List String}

/-- What the notes of a composition with a document say of it. -/
structure Truthful (l : Library) (store : Store) (d : Document) (notes : List Event) : Prop where
  /-- For each fragment, in the order of the composition, there are the statements in its branches
  that are left out, and behind them its end; then there are the totals, and nothing else. -/
  whole : notes = (l.sequence d.tier d.roles).flatMap (Fragment.report store) ++
    [.composed l.name d.tier d.roles d.fragmentIds.length d.statements.length]
  visits : Event.visits notes =
    (l.sequence d.tier d.roles).map fun f => (f.id, f.guard.holds store)
  once : ((l.sequence d.tier d.roles).map (·.id)).Nodup
  included : (Event.inclusions notes).map (·.1) = d.fragmentIds
  counted : ((Event.inclusions notes).map (·.2)).sum = d.statements.length
  /-- A statement in a branch that is taken is either counted or told to be left out. -/
  conserved : ∀ f ∈ l.sequence d.tier d.roles,
    (f.contribution store).length + (f.omissions store).length =
      (f.clauses.filter (Clause.isInForce store)).length
  /-- What is left out, and is a statement throughout, lacks a parameter that it may lack. -/
  lacking : ∀ f ∈ l.sequence d.tier d.roles, ∀ a ∈ Clause.omitted store f.clauses,
    a.isProper = true → ∃ r, .ref r ∈ a.demands ∧ r.required = false ∧
      ∃ p, store.find? r.param = some p ∧ p.setting = none
  debug : ∀ f ∈ l.sequence d.tier d.roles, ∀ e ∈ f.report store, e.severity = .debug
  info : notes.filter (·.severity == .info) =
    [.composed l.name d.tier d.roles d.fragmentIds.length d.statements.length]

theorem truthful_of_compose {requested : Value} {d : Document}
    (composed : (l.compose store requested roles).result = .ok d) :
    l.Truthful store d (l.compose store requested roles).notes := by
  have visits := visits_compose composed
  have noted := notes_compose composed
  obtain ⟨tier, -, -, -, resolves, rfl⟩ := compose_eq_ok_iff.mp composed
  have reports : (l.sequence tier roles).flatMap (Fragment.notes store) =
      (l.sequence tier roles).flatMap (Fragment.report store) := by
    refine List.flatMap_congr fun f inRow => ?_
    obtain ⟨out, resolved⟩ := resolves.fragments f inRow
    exact Fragment.notes_eq resolved
  have whole := noted.trans (congrArg (· ++ _) reports)
  have included : Event.inclusions (l.compose store requested roles).notes =
      Event.inclusions ((l.sequence tier roles).flatMap (Fragment.report store)) := by
    rw [whole, Event.inclusions, List.filterMap_append]
    exact List.append_nil _
  obtain ⟨ids, total⟩ := Fragment.inclusions_reports store (l.sequence tier roles)
  refine ⟨whole, visits, resolves.distinct, ?_, ?_, ?_, ?_, ?_, ?_⟩
  · rw [included]
    exact ids
  · rw [included, total]
    exact (List.length_map _).symm
  · intro f inRow
    obtain ⟨out, resolved⟩ := resolves.fragments f inRow
    exact Fragment.length_contribution resolved
  · intro f _ a left proper
    obtain ⟨c, listed, rfl⟩ := List.mem_map.mp left
    exact Statement.exists_ref_of_isOmitted proper
      (Bool.and_eq_true_iff.mp (List.mem_filter.mp listed).2).2
  · exact fun f _ e => Fragment.severity_of_mem_report
  · have debug : ((l.sequence tier roles).flatMap (Fragment.report store)).filter
        (·.severity == .info) = [] := by
      refine List.filter_eq_nil_iff.mpr fun e member => ?_
      obtain ⟨f, -, inside⟩ := List.mem_flatMap.mp member
      rw [Fragment.severity_of_mem_report inside]
      decide
    rw [whole, List.filter_append, debug]
    rfl

end Library

/-! ### Composition that ends in a fragment -/

/-- The note about a fault of a composition, if there is one. -/
def ComposeFault.confession : ComposeFault → List Event
  | .inFragment id fault => if fault.isOwn then [.aborted id fault] else []
  | _ => []

/-- What no fragment is blamed for is not noted. -/
theorem ComposeFault.confession_of_blameless {fault : ComposeFault}
    (blameless : fault.fragment? = none) : fault.confession = [] := by
  cases fault with
  | inFragment id cause =>
    have foreign : ¬cause.isOwn = true := by
      intro own
      rw [fragment?_inFragment id own] at blameless
      contradiction
    exact if_neg foreign
  | _ => rfl

/-- Whether a computation has the note about the fault that it ends with, and else none of an
error. -/
def Candid {α : Type} (x : Traced Event ComposeFault α) : Prop :=
  x.notes.filter (·.severity == .error) =
    match x.result with
    | .ok _ => []
    | .error fault => fault.confession

namespace Candid
variable {α β : Type} {x : Traced Event ComposeFault α}

theorem bind (first : Candid x) {f : α → Traced Event ComposeFault β}
    (next : ∀ a, Candid (f a)) : Candid (x >>= f) := by
  obtain ⟨notes, fault | a⟩ := x
  · exact first
  · have none : notes.filter (·.severity == .error) = [] := first
    have later := next a
    unfold Candid at later ⊢
    rw [Traced.notes_bind rfl, List.filter_append, none, List.nil_append, later]
    rfl

/-- A check that notes nothing and does not look into a fragment. -/
theorem ofExcept {x : Except ComposeFault α}
    (blameless : ∀ fault, x = .error fault → fault.fragment? = none) :
    Candid (Traced.ofExcept x) := by
  cases x with
  | ok a => rfl
  | error fault => exact (ComposeFault.confession_of_blameless (blameless fault rfl)).symm

end Candid

theorem Fragment.outcome_of_faultBehind {store : Store} {f : Fragment} {earlier : List String}
    {id : String} {fault : PolicyFault}
    (wrong : f.faultBehind store earlier = some (.inFragment id fault)) :
    f.id = id ∧ f.outcome store = .error fault := by
  unfold faultBehind at wrong
  split at wrong
  · cases wrong
  · split at wrong
    · next cause failed =>
      obtain ⟨rfl, rfl⟩ := ComposeFault.inFragment.inj (Option.some.inj wrong)
      exact ⟨rfl, failed⟩
    · cases wrong

namespace Assembly
variable {store : Store}

theorem candid_add (a : Assembly) (f : Fragment) : Candid (a.add store f) := by
  have quiet : (f.resolve store).notes.filter (·.severity == .error) = [] := by
    refine List.filter_eq_nil_iff.mpr fun e member => ?_
    obtain ⟨operations, rfl⟩ := Fragment.statementSkipped_of_mem_notes member
    exact Bool.false_ne_true
  unfold add Candid
  split
  · rfl
  · rcases resolved : f.resolve store with ⟨notes, fault | _ | statements⟩
    all_goals
      rw [resolved] at quiet
      dsimp only
      rw [List.filter_append, quiet, List.nil_append]
    · show _ = if fault.isOwn then [Event.aborted f.id fault] else []
      cases fault.isOwn <;> rfl
    · rfl
    · rfl

/-- By induction on the fragments. -/
theorem candid_addAll (a : Assembly) (fs : List Fragment) : Candid (a.addAll store fs) := by
  induction fs generalizing a with
  | nil => rfl
  | cons f rest ih => exact (candid_add a f).bind fun next => ih next

end Assembly

namespace Library
variable {l : Library} {store : Store} {tier : Option Tier} {roles : List String}

theorem candid_composeSelected : Candid (l.composeSelected store tier roles) := by
  refine (Assembly.candid_add _ _).bind fun opening => ?_
  generalize (opening.statements.head?.map Statement.isDenyDefault).getD false = denies
  cases denies with
  | false => rfl
  | true =>
    refine (Assembly.candid_addAll _ _).bind fun a => ?_
    refine Candid.bind (Candid.ofExcept fun fault wrong => ?_) fun renames => rfl
    obtain ⟨cause, -, rfl⟩ := Outcome.mapError_eq_error.mp wrong
    rfl

theorem fragment?_of_selectTier {requested : Value} {fault : ComposeFault}
    (wrong : selectTier requested = .error fault) : fault.fragment? = none := by
  unfold selectTier at wrong
  split at wrong
  · contradiction
  · split at wrong
    · obtain rfl := Except.error.inj wrong
      rfl
    · contradiction

theorem candid_compose (requested : Value) : Candid (l.compose store requested roles) := by
  refine Candid.bind (.ofExcept fun _ => fragment?_of_selectTier) fun tier => ?_
  refine Candid.bind (.ofExcept fun _ => fragment?_of_checkTier) fun _ => ?_
  exact Candid.bind (.ofExcept fun _ => fragment?_of_checkRoles) fun _ => candid_composeSelected

/-- The fragment that a composition ends in is one of those that it goes through, and its fault is
the one that it ends with on its own. -/
theorem exists_outcome_of_leftmost {id : String} {fault : PolicyFault}
    (first : leftmost (l.faults store tier roles) = some (.inFragment id fault)) :
    ∃ f ∈ l.sequence tier roles, f.id = id ∧ f.outcome store = .error fault := by
  rcases origin_of_leftmost first with ⟨f, inRow, before, wrong⟩ | same | ⟨cause, same⟩
  · exact ⟨f, inRow, Fragment.outcome_of_faultBehind wrong⟩
  · contradiction
  · contradiction

theorem exists_outcome_of_compose {requested : Value} {id : String} {fault : PolicyFault}
    (failed : (l.compose store requested roles).result = .error (.inFragment id fault))
    (own : fault.isOwn = true) :
    ∃ tier, selectTier requested = .ok tier ∧
      ∃ f ∈ l.sequence tier roles, f.id = id ∧ f.outcome store = .error fault := by
  have charged := ComposeFault.fragment?_inFragment id own
  unfold compose composeChosen at failed
  simp only [Traced.result_bind, Traced.result_ofExcept, Outcome.bind_eq_error] at failed
  rcases failed with wrong | ⟨tier, asked, wrong | ⟨-, -, wrong | ⟨-, -, failed⟩⟩⟩
  · rw [fragment?_of_selectTier wrong] at charged
    contradiction
  · rw [fragment?_of_checkTier wrong] at charged
    contradiction
  · rw [fragment?_of_checkRoles wrong] at charged
    contradiction
  · rw [composeSelected_result] at failed
    cases first : leftmost (l.faults store tier roles) with
    | none =>
      rw [first] at failed
      contradiction
    | some other =>
      rw [first] at failed
      obtain rfl := Except.error.inj failed
      exact ⟨tier, asked, exists_outcome_of_leftmost first⟩

/-- The notes of a composition. With a document they are true of it. A composition that ends in a
fragment with a fault of a parameter or of the assembly has one note of an error, with the name of
that fragment, which is one of those that it goes through. -/
theorem notes_truthful (l : Library) (store : Store) (requested : Value) (roles : List String) :
    (∀ d, (l.compose store requested roles).result = .ok d →
      l.Truthful store d (l.compose store requested roles).notes) ∧
    ∀ id fault, (l.compose store requested roles).result = .error (.inFragment id fault) →
      fault.isOwn = true →
      (l.compose store requested roles).notes.filter (·.severity == .error) =
          [.aborted id fault] ∧
        ∃ tier, selectTier requested = .ok tier ∧
          ∃ f ∈ l.sequence tier roles, f.id = id ∧ f.outcome store = .error fault := by
  refine ⟨fun d => truthful_of_compose, fun id fault failed own => ?_⟩
  refine ⟨?_, exists_outcome_of_compose failed own⟩
  have noted : Candid (l.compose store requested roles) := candid_compose requested
  rw [Candid, failed] at noted
  rw [noted]
  exact if_pos own

/-- A fragment with a statement that needs a path and a branch for a toggle, and one for the
toggle. -/
def tellingLibrary : Library where
  name := "telling"
  posture := ⟨"posture", [.leaf ⟨.deny, ["default"], [], [], none⟩], .always, ""⟩
  base := [
    ⟨"mixed", [
      .leaf ⟨.allow, ["file-read*", "file-ioctl"],
        [.only .subpath (.template [.ref ⟨"CACHE", false, false⟩, .fixed "/a"]) []], [], none⟩,
      .guarded (.isTrue "QUIET") [.leaf ⟨.allow, ["signal"], [], [], none⟩]
        [.leaf ⟨.allow, ["sysctl-read"], [], [], none⟩]], .always, ""⟩,
    ⟨"quiet", [.leaf ⟨.deny, ["syscall*"], [], [], none⟩], .isTrue "QUIET", ""⟩]
  tiers := []
  addenda := []
  aliases := []
  ids_nodup := by decide

def toldDocument : Document where
  statements := [⟨.deny, ["default"], [], [], none⟩, ⟨.allow, ["sysctl-read"], [], [], none⟩]
  tier := none
  roles := []
  fragmentIds := ["posture", "mixed"]
  library := "telling"

/-- Without the path and the toggle there is a statement less and a fragment less. Where the toggle
is not bound the composition ends in the fragment that has a branch for it. -/
theorem notes_truthful_telling :
    let cache : Parameter := ⟨"CACHE", .optionalPath, none⟩
    let store := Statement.storeOf [cache, ⟨"QUIET", .bool, some (.flag false)⟩]
    let bare := Statement.storeOf [cache]
    let told := tellingLibrary.compose store .null []
    let broken := tellingLibrary.compose bare .null []
    told.result = .ok toldDocument ∧ tellingLibrary.Truthful store toldDocument told.notes ∧
    told.notes = [.included "posture" 1, .statementSkipped "mixed" ["file-read*", "file-ioctl"],
      .included "mixed" 1, .skipped "quiet", .composed "telling" none [] 2 2] ∧
    broken.result = .error (.inFragment "mixed" (.parameter (.notBound "QUIET"))) ∧
    broken.notes.filter (·.severity == .error) =
      [.aborted "mixed" (.parameter (.notBound "QUIET"))] := by
  intro cache store bare told broken
  have composed : told.result = .ok toldDocument := by rfl
  have failed : broken.result = .error (.inFragment "mixed" (.parameter (.notBound "QUIET"))) := by
    rfl
  have whole := (notes_truthful tellingLibrary store .null []).1 toldDocument composed
  have ended := (notes_truthful tellingLibrary bare .null []).2 _ _ failed rfl
  exact ⟨composed, whole, by rfl, failed, ended.1⟩

end Library
end SandboxProfile
