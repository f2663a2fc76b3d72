import SandboxProfile.Proofs.Content.Composable
import SandboxProfile.Proofs.Policy.Origin

/-! The layout of content profiles. A rule overrides those above it, so all denials stand in
front and none of them is narrowed down, and what stands behind them only permits. Every file
can be read only if the tier or a role says so. -/
namespace SandboxProfile.Content

/-- What asks for a report of denials. -/
def debugDeny : Statement := ⟨.debug, ["deny"], [], [], none⟩

/-- The fragments that only permit. -/
def permissions : List Fragment :=
  base.drop 2 ++ Tier.all.flatMap (fun t => (library.tier? t).getD []) ++
    library.addenda.flatMap (·.2)

/-- Those of them that a tier and roles stand for. -/
def permitting (tier : Option Tier) (roles : List String) : List Fragment :=
  base.drop 2 ++ (Tier.levels tier).flatMap (fun t => (library.tier? t).getD []) ++
    library.addendaOf roles

/-- A denial that nothing narrows down. -/
structure Denies (a : Statement) : Prop where
  action : a.action = .deny
  filters : a.filters = []
  scope : a.scope = none

/-- A permission to read every file. -/
structure ReadsEverything (a : Statement) : Prop where
  action : a.action = .allow
  reads : a.concerns (· == "file-read*") = true
  filters : a.filters = []

/-- A denial of everything, denials of single operations, at most one request for a report,
and permissions. -/
def LaidOut (statements : List Statement) : Prop :=
  ∃ first denials debugs permissions,
    statements = first :: denials ++ debugs ++ permissions ∧
    first.isDenyDefault = true ∧
    (∀ a ∈ denials, Denies a ∧ a.isDenyDefault = false) ∧
    (debugs = [] ∨ debugs = [debugDeny]) ∧
    ∀ a ∈ permissions, a.action = .allow

/-! What the leaves of the library say. -/

theorem extraDenies_told : ∀ c ∈ extraDenies.clauses, c.statement.action = .deny ∧
    c.statement.filters = [] ∧ c.statement.scope = none ∧
      c.statement.concerns (· == defaultOperation) = false := by
  decide +kernel

theorem permissions_told : ∀ f ∈ permissions, ∀ c ∈ f.clauses,
    c.statement.action = .allow ∧ c.statement.modifiers = [] := by
  decide +kernel

theorem front_told : ∀ f ∈ [posture, extraDenies] ++ [debugLogging], ∀ c ∈ f.clauses,
    c.statement.action ≠ .allow := by
  decide +kernel

theorem narrow_told : ∀ f ∈ base.drop 2, ∀ c ∈ f.clauses,
    c.statement.concerns (· == "file-read*") = true → c.statement.filters ≠ [] := by
  decide +kernel

theorem tier_told : ∀ t : Tier, ∀ f ∈ (library.tier? t).getD [], ∀ c ∈ f.clauses,
    c.statement.concerns (· == "file-read*") = true → c.statement.filters = [] → t = .level1 := by
  intro t
  cases t <;> decide +kernel

theorem addenda_told_apart : ∀ entry ∈ library.addenda, ∀ f ∈ entry.2, ∀ c ∈ f.clauses,
    c.statement.concerns (· == "file-read*") = true → c.statement.filters = [] →
      entry.1 = "file" := by
  decide +kernel

theorem globalRead_mem : globalRead ∈ library.sequence (some .level1) [] := by
  have row : library.sequence (some .level1) [] =
    posture :: (base ++ [noGlobalRead, restrictedRead, globalRead]) := rfl
  rw [row]
  simp

theorem renames_cases (s : Store) :
    library.renames s = [] ∨ library.renames s = shmAliases.renames.reverse := by
  have single : library.aliases = [shmAliases] := rfl
  unfold Library.renames Library.pairsInForce
  rw [single]
  cases holds : shmAliases.guard.holds s <;> simp [holds]

/-- A sort of operations that is not about shared memory is left alone by the renames. -/
theorem concerns_rename {sort : String → Bool} (s : Store) (a : Statement)
    (kept : ∀ pair ∈ shmAliases.renames, sort pair.2 = sort pair.1) :
    (a.rename (library.renames s)).concerns sort = a.concerns sort := by
  apply Statement.concerns_rename
  rcases renames_cases s with renames | renames
  · simp [renames]
  · simpa [renames] using kept

variable {s : Store} {tier : Option Tier} {roles : List String}

theorem sequence_eq_layers : library.sequence tier roles =
    [posture, extraDenies] ++ [debugLogging] ++ permitting tier roles := rfl

theorem statements_eq_layers : (library.assembled s tier roles).statements =
    library.granted s [posture, extraDenies] ++ library.granted s [debugLogging] ++
      library.granted s (permitting tier roles) := by
  rw [Library.statements_eq_granted, sequence_eq_layers, Library.granted_append,
    Library.granted_append]

theorem fragmentIds_eq_layers : (library.assembled s tier roles).fragmentIds =
    Fragment.includedIds s [posture, extraDenies] ++ Fragment.includedIds s [debugLogging] ++
      Fragment.includedIds s (permitting tier roles) := by
  rw [Library.fragmentIds_eq_includedIds, sequence_eq_layers, Fragment.includedIds_append,
    Fragment.includedIds_append]

theorem mem_permissions {f : Fragment} (member : f ∈ permitting tier roles) : f ∈ permissions := by
  simp only [permitting, Library.addendaOf, List.mem_append, List.mem_flatMap] at member
  simp only [permissions, List.mem_append, List.mem_flatMap]
  rcases member with (further | ⟨level, -, member⟩) | ⟨role, -, member⟩
  · exact .inl (.inl further)
  · exact .inl (.inr ⟨level, by cases level <;> decide, member⟩)
  · obtain ⟨fs, declared, member⟩ := Library.mem_addenda_of_mem_addendum member
    exact .inr ⟨(role, fs), declared, member⟩

/-- A posture that resolves asked whether denials are logged. -/
theorem logs_of_outcome {out : Option (List Statement)} (resolved : posture.outcome s = .ok out) :
    ∃ on, s.setting shouldLog = .ok (some (.flag on)) := by
  have single : posture.body = [denyQuietly defaultOperation] := rfl
  rw [Fragment.outcome_eq, single] at resolved
  obtain ⟨statements, body, -⟩ := Outcome.map_eq_ok.mp resolved
  rw [Node.resolveList, Traced.result_bind] at body
  obtain ⟨here, denial, -⟩ := Outcome.bind_eq_ok.mp body
  rw [denyQuietly, choose, Node.resolve, Traced.result_bind] at denial
  obtain ⟨on, decided, -⟩ := Outcome.bind_eq_ok.mp denial
  exact ⟨on, Guard.evaluate_isTrue_eq_ok.mp decided⟩

theorem denies_of_skeleton {a b : Statement} (same : b.skeleton = a.skeleton)
    (action : a.action = .deny) (filters : a.filters = []) (scope : a.scope = none)
    (renames : List (String × String)) : Denies (b.rename renames) where
  action := (Statement.action_of_skeleton same).trans action
  filters := (Statement.filters_eq_nil_of_skeleton same).mpr filters
  scope := by
    have absent : b.scope.isSome = false := by
      rw [Statement.isSome_scope_of_skeleton same, scope, Option.isSome_none]
    exact Option.isNone_iff_eq_none.mp (Option.isSome_eq_false_iff.mp absent)

/-! The layers of a composition that gives a document. -/

theorem rename_default (s : Store) (on : Bool) :
    (quietly on defaultOperation).rename (library.renames s) = quietly on defaultOperation := by
  rcases renames_cases s with renames | renames <;> rw [renames] <;> rfl

theorem isDenyDefault_eq_false {a : Statement}
    (other : a.concerns (· == defaultOperation) = false) : a.isDenyDefault = false := by
  cases denies : a.isDenyDefault with
  | false => rfl
  | true =>
    simp only [Statement.isDenyDefault, Bool.and_eq_true, beq_iff_eq] at denies
    simp [Statement.concerns, denies.1.1.2] at other

section Resolved
variable (resolves : library.Resolves s tier roles)
include resolves

theorem granted_posture : ∃ on, library.granted s [posture] = [quietly on defaultOperation] := by
  obtain ⟨out, resolved⟩ := resolves.fragments posture List.mem_cons_self
  obtain ⟨on, logs⟩ := logs_of_outcome resolved
  refine ⟨on, ?_⟩
  rw [Library.granted_eq_map, List.flatMap_singleton, posture_contribution logs,
    List.map_singleton, rename_default]

theorem granted_extraDenies :
    ∀ a ∈ library.granted s [extraDenies], Denies a ∧ a.isDenyDefault = false := by
  refine Library.forall_mem_granted ?_ ?_
  · intro f member
    obtain rfl := List.mem_singleton.mp member
    exact resolves.fragments extraDenies (by simp [sequence_eq_layers])
  · intro f member c listed b same
    obtain rfl := List.mem_singleton.mp member
    obtain ⟨action, filters, scope, other⟩ := extraDenies_told c listed
    refine ⟨denies_of_skeleton same action filters scope _, isDenyDefault_eq_false ?_⟩
    rw [concerns_rename s b (by decide), Statement.concerns_of_skeleton same, other]

theorem granted_debugLogging : library.granted s [debugLogging] = [] ∨
    library.granted s [debugLogging] = [debugDeny] := by
  obtain ⟨out, resolved⟩ := resolves.fragments debugLogging (by simp [sequence_eq_layers])
  have single : debugLogging.clauses = [⟨[⟨.isTrue shouldLog, true⟩], debugDeny⟩] := rfl
  rw [Library.granted_eq_map, List.flatMap_singleton, Fragment.contribution_eq_yields resolved,
    single]
  cases given : Clause.yield s ⟨[⟨.isTrue shouldLog, true⟩], debugDeny⟩ with
  | none =>
    left
    simp [given]
  | some b =>
    right
    obtain rfl : debugDeny = b := Option.some.inj <|
      (Clause.yield_of_isFixed (Clause.isInForce_of_yield given) rfl).symm.trans given
    rcases renames_cases s with renames | renames <;> simp [given, renames] <;> rfl

theorem granted_permitting : ∀ a ∈ library.granted s (permitting tier roles),
    a.action = .allow ∧ a.modifiers = [] := by
  refine Library.forall_mem_granted ?_ ?_
  · intro f member
    exact resolves.fragments f (by simp [sequence_eq_layers, member])
  · intro f member c listed b same
    obtain ⟨action, modifiers⟩ := permissions_told f (mem_permissions member) c listed
    exact ⟨(Statement.action_of_skeleton same).trans action,
      (Statement.modifiers_of_skeleton same).trans modifiers⟩

/-- A permission to read everything is given by the first tier or by one role alone. -/
theorem reason_of_readsEverything {a : Statement}
    (member : a ∈ (library.assembled s tier roles).statements) (reads : ReadsEverything a) :
    tier = some .level1 ∨ "file" ∈ roles := by
  obtain ⟨f, inRow, c, listed, b, given, rfl⟩ := (Library.mem_statements_iff resolves).mp member
  have same := Clause.skeleton_of_yield given
  have action : c.statement.action = .allow :=
    (Statement.action_of_skeleton same).symm.trans reads.action
  have operation : c.statement.concerns (· == "file-read*") = true := by
    rw [← Statement.concerns_of_skeleton same, ← concerns_rename s b (by decide)]
    exact reads.reads
  have filters : c.statement.filters = [] :=
    (Statement.filters_eq_nil_of_skeleton same).mp reads.filters
  rcases List.mem_append.mp (sequence_eq_layers ▸ inRow) with front | permits
  · exact absurd action (front_told f front c listed)
  simp only [permitting, Library.addendaOf, List.mem_append, List.mem_flatMap] at permits
  rcases permits with (narrow | ⟨level, asked, member⟩) | ⟨role, requested, member⟩
  · exact absurd filters (narrow_told f narrow c listed operation)
  · obtain rfl := tier_told level f member c listed operation filters
    left
    rcases tier with _ | _ | _ | _ <;> simp [Tier.levels] at asked ⊢
  · obtain ⟨fs, declared, member⟩ := Library.mem_addenda_of_mem_addendum member
    obtain rfl := addenda_told_apart (role, fs) declared f member c listed operation filters
    exact .inr requested

/-- A fragment that is always there and begins with an unconditional permission to read
everything. -/
theorem readsEverything_of_mem {f : Fragment} (inRow : f ∈ library.sequence tier roles)
    (listed : ⟨[⟨.always, true⟩], ⟨.allow, ["file-read*"], [], [], none⟩⟩ ∈ f.clauses) :
    ∃ a ∈ (library.assembled s tier roles).statements, ReadsEverything a := by
  have given : Clause.yield s ⟨[⟨.always, true⟩], ⟨.allow, ["file-read*"], [], [], none⟩⟩ =
    some ⟨.allow, ["file-read*"], [], [], none⟩ := Clause.yield_of_isFixed rfl rfl
  refine ⟨_, (Library.mem_statements_iff resolves).mpr ⟨f, inRow, _, listed, _, given, rfl⟩, ?_⟩
  exact ⟨rfl, (concerns_rename s _ (by decide)).trans rfl, rfl⟩

theorem readsEverything_iff : (∃ a ∈ (library.assembled s tier roles).statements,
    ReadsEverything a) ↔ tier = some .level1 ∨ "file" ∈ roles := by
  constructor
  · rintro ⟨a, member, reads⟩
    exact reason_of_readsEverything resolves member reads
  · rintro (rfl | requested)
    · have inRow : globalRead ∈ library.sequence (some .level1) roles := by
        rw [Library.sequence_eq]
        exact List.mem_append_left _ globalRead_mem
      exact readsEverything_of_mem resolves inRow List.mem_cons_self
    · have inRow : fileAddendum ∈ library.sequence tier roles := by
        rw [Library.sequence_eq]
        exact List.mem_append_right _
          (List.mem_flatMap.mpr ⟨"file", requested, List.mem_cons_self⟩)
      exact readsEverything_of_mem resolves inRow List.mem_cons_self

theorem laidOut : LaidOut (library.assembled s tier roles).statements := by
  obtain ⟨on, first⟩ := granted_posture resolves
  have front : library.granted s [posture, extraDenies] =
      quietly on defaultOperation :: library.granted s [extraDenies] := by
    rw [← List.singleton_append (x := posture), Library.granted_append, first,
      List.singleton_append]
  refine ⟨quietly on defaultOperation, _, _, _, ?_, rfl, granted_extraDenies resolves,
    granted_debugLogging resolves, fun a member => (granted_permitting resolves a member).1⟩
  rw [statements_eq_layers, front]

end Resolved

/-- What is laid out like this denies without filters. -/
theorem LaidOut.filters_eq_nil {statements : List Statement} (laidOut : LaidOut statements) :
    ∀ a ∈ statements, a.action = .deny → a.filters = [] := by
  obtain ⟨first, denials, debugs, permissions, rfl, opening, denying, debugging, allowing⟩ :=
    laidOut
  intro a member denied
  simp only [List.cons_append, List.mem_cons, List.mem_append] at member
  rcases member with rfl | (denial | debug) | permission
  · simp only [Statement.isDenyDefault, Bool.and_eq_true, List.isEmpty_iff] at opening
    exact opening.1.2
  · exact (denying a denial).1.filters
  · rcases debugging with silent | asked
    · simp [silent] at debug
    · obtain rfl := List.mem_singleton.mp (asked ▸ debug)
      rfl
  · exact absurd ((allowing a permission).symm.trans denied) (by decide)

/-- Every content profile denies everything and then some operations of their own, may ask
for a report, and from there on only permits. Nothing narrows a denial down. It permits to
read every file exactly for the first tier or for the role that is made for files. -/
theorem denials_precede_permissions {requested : Value} {d : Document}
    (composed : (library.compose s requested roles).result = .ok d) :
    LaidOut d.statements ∧
    (∀ a ∈ d.statements, a.action = .deny → a.filters = []) ∧
    ((∃ a ∈ d.statements, ReadsEverything a) ↔
      Library.selectTier requested = .ok (some .level1) ∨ "file" ∈ roles) := by
  obtain ⟨tier, asked, -, -, resolves, rfl⟩ := Library.compose_eq_ok_iff.mp composed
  have told : Library.selectTier requested = .ok (some .level1) ↔ tier = some .level1 := by
    rw [asked, Except.ok.injEq]
  refine ⟨laidOut resolves, (laidOut resolves).filters_eq_nil, ?_⟩
  rw [told, readsEverything_iff resolves]

/-- A profile of the second tier that reads everything because of a role. -/
theorem denials_precede_permissions_supplied : ∃ d : Document,
    (library.compose suppliedStore (.int 2) ["file"]).result = .ok d ∧
    LaidOut d.statements ∧
    ∃ a ∈ d.statements, ReadsEverything a := by
  obtain ⟨d, composed⟩ : ∃ d, (library.compose suppliedStore (.int 2) ["file"]).result = .ok d :=
    exists_document suppliedStore_built (by simp) rfl
  obtain ⟨layers, -, reads⟩ := denials_precede_permissions composed
  exact ⟨d, composed, layers, reads.mpr (.inr List.mem_cons_self)⟩

end SandboxProfile.Content
