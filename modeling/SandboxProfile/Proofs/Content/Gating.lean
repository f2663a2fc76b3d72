import SandboxProfile.Proofs.Content.Layout
import SandboxProfile.Proofs.Policy.Requirement

/-! What a content profile names and what its target knows. An operation, a filter or a form
of statement that not every target knows stands in a profile exactly if the target of the
profile does know it. -/
namespace SandboxProfile.Content

/-- Whether an operation begins with a word. -/
def beginsWith (word op : String) : Bool := word.toList.isPrefixOf op.toList

def filtersKernelState (a : Statement) : Bool :=
  a.kinds.any fun kind => kind == .sysctlName || kind == .sysctlNameRegex

def isScoped (a : Statement) : Bool := a.scope.isSome

/-- Whether a document is about an operation of some sort. -/
def Names (d : Document) (sort : String → Bool) : Prop :=
  ∃ a ∈ d.statements, a.concerns sort = true

/-- A document that names nothing its target lacks, the target being a version and the
primitives of a store. -/
structure FitsTarget (s : Store) (version : Int) (d : Document) : Prop where
  primitives : ∀ p oldest, (p, oldest) ∈ primitiveVersions →
    (Names d (· == p) ↔ s.defines p = .ok true)
  derived : s.primitives = some (primitivesFor version) →
    ∀ p oldest, (p, oldest) ∈ primitiveVersions → (Names d (· == p) ↔ oldest ≤ version)
  processInfo : Names d (beginsWith "process-info") ↔ 1009 ≤ version
  preferences : Names d (· == "user-preference-read") ↔ 1008 ≤ version
  kernelState : (∃ a ∈ d.statements, filtersKernelState a = true) ↔ 1009 < version
  scopes : (∃ a ∈ d.statements, isScoped a = true) ↔
    1100 ≤ version ∧ s.defines "iokit-get-properties" = .ok true
  oldShm : version ≤ 1007 → ∀ a ∈ d.statements, ∀ op ∈ a.operations,
    beginsWith "ipc-posix-shm" op = true → op = "ipc-posix-shm"
  newShm : 1007 < version → ¬Names d (· == "ipc-posix-shm")

/-! What the leaves of the library say. -/

theorem primitives_gate : ∀ p ∈ primitiveVersions.map (·.1),
    library.Gates (Statement.concerns (· == p)) [.primitive p] ∧
      library.Supplies shouldLog (Statement.concerns (· == p)) [.primitive p] := by
  decide +kernel

theorem processInfo_gates :
    library.Gates (Statement.concerns (beginsWith "process-info")) [.since 1009] ∧
      library.Supplies shouldLog (Statement.concerns (beginsWith "process-info"))
        [.since 1009] := by
  decide +kernel

theorem preferences_gate :
    library.Gates (Statement.concerns (· == "user-preference-read")) [.since 1008] ∧
      library.Supplies shouldLog (Statement.concerns (· == "user-preference-read"))
        [.since 1008] := by
  decide +kernel

theorem kernelState_gates : library.Gates filtersKernelState [.since 1010] ∧
    library.Supplies shouldLog filtersKernelState [.since 1010] := by
  decide +kernel

theorem scopes_gate : library.Gates isScoped [.since 1100, .primitive "iokit-get-properties"] ∧
    library.Supplies shouldLog isScoped [.since 1100, .primitive "iokit-get-properties"] := by
  decide +kernel

theorem bareShm_gates :
    library.Gates (Statement.concerns (· == "ipc-posix-shm")) [.upTo 1007] := by
  decide +kernel

theorem shm_told : ∀ f ∈ library.fragments, ∀ c ∈ f.clauses, ∀ op ∈ c.statement.operations,
    beginsWith "ipc-posix-shm" ((shmAliases.renames.reverse.lookup op).getD op) = true →
      (shmAliases.renames.reverse.lookup op).getD op = "ipc-posix-shm" := by
  decide +kernel

/-! What renames and arguments leave as it is. -/

variable {s : Store} {version : Int} {tier : Option Tier} {roles : List String}

theorem keeps_concerns {sort : String → Bool}
    (kept : ∀ pair ∈ shmAliases.renames, sort pair.2 = sort pair.1) :
    library.Keeps s (Statement.concerns sort) := by
  intro a b same
  rw [concerns_rename s b kept, Statement.concerns_of_skeleton same]

theorem keeps_filtersKernelState : library.Keeps s filtersKernelState := by
  intro a b same
  have kinds : (b.rename (library.renames s)).kinds = a.kinds := by
    rw [← Statement.kinds_skeleton a, ← same, Statement.kinds_skeleton b]
    rfl
  rw [filtersKernelState, kinds, filtersKernelState]

theorem keeps_isScoped : library.Keeps s isScoped := by
  intro a b same
  have scopes : b.scope.isSome = a.scope.isSome := Statement.isSome_scope_of_skeleton same
  exact scopes

section Resolved
variable (number : s.setting versionParameter = .ok (some (.number version)))
  (resolves : library.Resolves s tier roles)
include number resolves

theorem stands_iff {sort : Statement → Bool} {requirements : List Requirement}
    (kept : library.Keeps s sort)
    (told : library.Gates sort requirements ∧ library.Supplies shouldLog sort requirements) :
    (∃ a ∈ (library.assembled s tier roles).statements, sort a = true) ↔
      ∀ r ∈ requirements, r.IsMet s version := by
  obtain ⟨out, resolved⟩ := resolves.fragments posture List.mem_cons_self
  obtain ⟨on, logs⟩ := logs_of_outcome resolved
  exact Library.exists_iff_of_gates number resolves kept logs told.1 told.2

theorem names_primitive_iff {p : String} {oldest : Int} (listed : (p, oldest) ∈ primitiveVersions) :
    Names (library.assembled s tier roles) (· == p) ↔ s.defines p = .ok true := by
  have member : p ∈ primitiveVersions.map (·.1) := List.mem_map.mpr ⟨(p, oldest), listed, rfl⟩
  have kept : ∀ p ∈ primitiveVersions.map (·.1), ∀ pair ∈ shmAliases.renames,
      (pair.2 == p) = (pair.1 == p) := by decide
  have stands := stands_iff number resolves (keeps_concerns (kept p member))
    (primitives_gate p member)
  exact stands.trans List.forall_mem_singleton

end Resolved

section Shm
variable (number : s.setting versionParameter = .ok (some (.number version)))
include number

theorem renames_eq :
    library.renames s = if version ≤ 1007 then shmAliases.renames.reverse else [] := by
  have single : library.aliases = [shmAliases] := rfl
  have holds : shmAliases.guard.holds s = decide (version ≤ 1007) := Guard.holds_compare number
  unfold Library.renames Library.pairsInForce
  by_cases old : version ≤ 1007 <;> simp [single, holds, old]

/-- Renamed or not, an operation on shared memory has the one name that old versions know. -/
theorem shm_of_old (resolves : library.Resolves s tier roles) (old : version ≤ 1007)
    {a : Statement} (member : a ∈ (library.assembled s tier roles).statements) :
    ∀ op ∈ a.operations, beginsWith "ipc-posix-shm" op = true → op = "ipc-posix-shm" := by
  obtain ⟨f, inRow, c, listed, b, given, rfl⟩ := (Library.mem_statements_iff resolves).mp member
  have operations : b.operations = c.statement.operations :=
    Statement.operations_of_skeleton (Clause.skeleton_of_yield given)
  simp only [Statement.rename, operations, renames_eq number, old, ↓reduceIte, List.mem_map,
    forall_exists_index, and_imp, forall_apply_eq_imp_iff₂]
  exact shm_told f (Library.mem_fragments_of_mem_sequence inRow) c listed

/-- Renames lead to the bare name of shared memory. Only where there are none of them, it is
not to be had from another name. -/
theorem keeps_of_new (new : 1007 < version) (sort : String → Bool) :
    library.Keeps s (Statement.concerns sort) := by
  intro a b same
  have unnamed : library.renames s = [] := by simp [renames_eq number, new]
  rw [unnamed, Statement.concerns_rename (by simp), Statement.concerns_of_skeleton same]

end Shm

/-- A content profile names what its target knows and nothing else: for every version, and
for primitives that fit the version or do not. -/
theorem fitsTarget {requested : Value} {d : Document}
    (number : s.setting versionParameter = .ok (some (.number version)))
    (composed : (library.compose s requested roles).result = .ok d) :
    FitsTarget s version d ∧
    ∀ values catalogue, Store.build values catalogue none versionParameter = .ok s →
      s.primitives = some (primitivesFor version) := by
  obtain ⟨tier, -, -, -, resolves, rfl⟩ := Library.compose_eq_ok_iff.mp composed
  refine ⟨?_, fun values catalogue built => Store.primitives_of_build_derived built number⟩
  have primitives : ∀ p oldest, (p, oldest) ∈ primitiveVersions →
      (Names (library.assembled s tier roles) (· == p) ↔ s.defines p = .ok true) :=
    fun p oldest listed => names_primitive_iff number resolves listed
  constructor
  case primitives => exact primitives
  case derived =>
    intro derived p oldest listed
    rw [primitives p oldest listed, Store.defines_iff_of_derived listed derived]
  case processInfo =>
    have stands := stands_iff number resolves (keeps_concerns (by decide +kernel)) processInfo_gates
    exact stands.trans List.forall_mem_singleton
  case preferences =>
    have stands := stands_iff number resolves (keeps_concerns (by decide)) preferences_gate
    exact stands.trans List.forall_mem_singleton
  case kernelState =>
    have stands := stands_iff number resolves keeps_filtersKernelState kernelState_gates
    exact stands.trans List.forall_mem_singleton
  case scopes =>
    have stands := stands_iff number resolves keeps_isScoped scopes_gate
    simpa [Requirement.IsMet] using stands
  case oldShm => exact fun old a member => shm_of_old number resolves old member
  case newShm =>
    rintro new ⟨a, member, bare⟩
    have met := Library.isMet_of_gates number resolves (keeps_of_new number new _) bareShm_gates
      member bare
    have old : version ≤ 1007 := met (.upTo 1007) List.mem_cons_self
    omega

/-- Version 10.14 has all primitives and knows scopes of version 11 not yet. -/
theorem fitsTarget_supplied : ∃ d : Document,
    suppliedStore.setting versionParameter = .ok (some (.number 1014)) ∧
    (library.compose suppliedStore (.int 3) ["audio"]).result = .ok d ∧
    FitsTarget suppliedStore 1014 d := by
  have number : suppliedStore.setting versionParameter = .ok (some (.number 1014)) := rfl
  obtain ⟨d, composed⟩ : ∃ d, (library.compose suppliedStore (.int 3) ["audio"]).result = .ok d :=
    exists_document suppliedStore_built (by simp) rfl
  exact ⟨d, number, composed, (fitsTarget number composed).1⟩

end SandboxProfile.Content
