import SandboxProfile.Proofs.Policy.Composition

/-! The posture of a document. Its first statement denies, without filters and
without a scope, what the renames in force make of the default operation. -/
namespace SandboxProfile.Library
variable {l : Library} {store : Store}

/-- What the last pair in force for an operation renames it to. -/
def renamed (l : Library) (store : Store) (operation : String) : String :=
  ((pairsInForce store l.aliases).reverse.lookup operation).getD operation

/-- What the renames make of the statement that the posture begins with. -/
theorem rename_denyDefault {s : Statement} (denies : s.isDenyDefault = true) :
    s.rename (pairsInForce store l.aliases).reverse =
      ⟨.deny, [l.renamed store defaultOperation], [], s.modifiers, none⟩ := by
  simp only [Statement.isDenyDefault, Bool.and_eq_true, beq_iff_eq, List.isEmpty_iff,
    Option.isNone_iff_eq_none] at denies
  obtain ⟨⟨⟨action, operations⟩, filters⟩, scope⟩ := denies
  simp [Statement.rename, renamed, action, operations, filters, scope]

/-- A document begins by denying everything exactly if no pair in force renames the
default operation to another one. -/
theorem first_isDenyDefault_iff {requested : Value} {roles : List String} {d : Document}
    (composed : (l.compose store requested roles).result = .ok d) :
    ∃ first rest, d.statements = first :: rest ∧ first.action = .deny ∧ first.filters = [] ∧
      first.scope = none ∧ first.operations = [l.renamed store defaultOperation] ∧
      (first.isDenyDefault = true ↔ l.renamed store defaultOperation = defaultOperation) := by
  obtain ⟨tier, -, -, -, resolves, rfl⟩ := compose_eq_ok_iff.mp composed
  obtain ⟨first, rest, contributed, denies⟩ := resolves.posture
  have statements : (l.assembled store tier roles).statements =
      ⟨.deny, [l.renamed store defaultOperation], [], first.modifiers, none⟩ ::
        (rest ++ (l.following tier roles).flatMap (Fragment.contribution store)).map
          (Statement.rename (pairsInForce store l.aliases).reverse) := by
    rw [assembled, sequence, List.flatMap_cons, contributed, List.cons_append, List.map_cons,
      rename_denyDefault denies]
  refine ⟨_, _, statements, rfl, rfl, rfl, rfl, ?_⟩
  simp [Statement.isDenyDefault]

/-- Shared memory under the one name that an old platform has for it, and the default
operation under another name. -/
def renamingLibrary : Library where
  name := "renaming"
  posture := ⟨"posture", [.leaf ⟨.deny, ["default"], [], ["no-log"], none⟩], .always, ""⟩
  base := []
  tiers := []
  addenda := []
  aliases := [⟨.always, [("ipc-posix-shm*", "ipc-posix-shm"), ("default", "file-read*")]⟩]
  ids_nodup := by decide

def renamedDocument : Document :=
  ⟨[⟨.deny, ["file-read*"], [], ["no-log"], none⟩], none, [], ["posture"], "renaming"⟩

theorem first_isDenyDefault_iff_renaming :
    (renamingLibrary.compose emptyStore .null []).result = .ok renamedDocument ∧
    ∃ first rest, renamedDocument.statements = first :: rest ∧ first.action = .deny ∧
      first.filters = [] ∧ first.scope = none ∧
      first.operations = [renamingLibrary.renamed emptyStore defaultOperation] ∧
      (first.isDenyDefault = true ↔
        renamingLibrary.renamed emptyStore defaultOperation = defaultOperation) :=
  have composed : (renamingLibrary.compose emptyStore .null []).result = .ok renamedDocument := rfl
  ⟨composed, first_isDenyDefault_iff composed⟩

/-- It is not so that every document begins by denying everything. -/
theorem not_forall_first_isDenyDefault :
    ¬∀ (l : Library) (store : Store) (requested : Value) (roles : List String) (d : Document),
      (l.compose store requested roles).result = .ok d →
        ∃ first rest, d.statements = first :: rest ∧ first.isDenyDefault = true := by
  intro always
  obtain ⟨first, rest, statements, denies⟩ :=
    always renamingLibrary emptyStore .null [] renamedDocument rfl
  obtain ⟨rfl, -⟩ := List.cons.inj statements
  exact absurd denies (by decide)

end SandboxProfile.Library
