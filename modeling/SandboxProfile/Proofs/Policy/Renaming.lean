import SandboxProfile.Proofs.Policy.Composition
import Mathlib.Data.List.Forall2
import Mathlib.Data.List.Induction

/-! Renames. All pairs in force apply at once: an operation becomes the target of the last pair
that has it as its source, and a target is not renamed again. Nothing else in a document
depends on the alias sets. -/
namespace SandboxProfile

/-- What pairs make of an operation. Of those that have it as their source the last one counts,
and an operation that is no source stays. -/
inductive Renames (pairs : List (String × String)) (operation : String) : String → Prop where
  | last {earlier later : List (String × String)} {target : String} :
      pairs = earlier ++ (operation, target) :: later →
      (∀ pair ∈ later, pair.1 ≠ operation) → Renames pairs operation target
  | stays : (∀ pair ∈ pairs, pair.1 ≠ operation) → Renames pairs operation operation

namespace Renames
variable {pairs : List (String × String)} {operation : String}

/-- A pair behind the others counts only for its own source. -/
theorem append_of_ne {target : String} (renames : Renames pairs operation target)
    {pair : String × String} (other : pair.1 ≠ operation) :
    Renames (pairs ++ [pair]) operation target := by
  cases renames with
  | last split after =>
    subst split
    refine .last (List.append_assoc ..) fun p member => ?_
    rcases List.mem_append.mp member with inside | behind
    · exact after p inside
    · rwa [List.mem_singleton.mp behind]
  | stays absent =>
    refine .stays fun p member => ?_
    rcases List.mem_append.mp member with inside | behind
    · exact absent p inside
    · rwa [List.mem_singleton.mp behind]

/-- Looking a source up from the end finds the pair that counts. By induction on the pairs, the
last one first. -/
theorem of_lookup (pairs : List (String × String)) (operation : String) :
    Renames pairs operation ((pairs.reverse.lookup operation).getD operation) := by
  induction pairs using List.reverseRecOn with
  | nil => exact .stays fun p member => absurd member List.not_mem_nil
  | append_singleton pairs pair ih =>
    obtain ⟨source, target⟩ := pair
    rw [List.reverse_concat, List.lookup_cons]
    by_cases same : operation = source
    · subst same
      rw [beq_self_eq_true]
      exact .last rfl fun p member => absurd member List.not_mem_nil
    · rw [beq_eq_false_iff_ne.mpr same]
      exact ih.append_of_ne (Ne.symm same)

end Renames

theorem Statement.rename_nil (a : Statement) : a.rename [] = a := by
  have kept : a.operations.map (fun operation => ([].lookup operation).getD operation) =
      a.operations := List.map_id _
  rw [rename, kept]

/-- A statement, and the same statement with its operations renamed. -/
structure Statement.RenamedBy (pairs : List (String × String)) (a b : Statement) : Prop where
  action : b.action = a.action
  operations : List.Forall₂ (Renames pairs) a.operations b.operations
  filters : b.filters = a.filters
  modifiers : b.modifiers = a.modifiers
  scope : b.scope = a.scope

theorem Statement.renamedBy_rename (pairs : List (String × String)) (a : Statement) :
    a.RenamedBy pairs (a.rename pairs.reverse) where
  action := rfl
  operations := by
    rw [rename, List.forall₂_map_right_iff, List.forall₂_same]
    intro operation _
    exact .of_lookup pairs operation
  filters := rfl
  modifiers := rfl
  scope := rfl

namespace Library
variable {l : Library} {store : Store} {tier : Option Tier} {roles : List String}

/-- The library as it would be without its alias sets. -/
def withoutAliases (l : Library) : Library := ⟨{ l.toSections with aliases := [] }, l.ids_nodup⟩

/-- The alias sets take no part in the resolution of fragments. -/
theorem Resolves.withoutAliases (resolves : l.Resolves store tier roles) :
    l.withoutAliases.Resolves store tier roles where
  fragments := resolves.fragments
  distinct := resolves.distinct
  posture := resolves.posture
  aliases _ member := absurd member List.not_mem_nil

theorem assembled_withoutAliases : (l.withoutAliases.assembled store tier roles).statements =
    (l.sequence tier roles).flatMap (Fragment.contribution store) := by
  rw [assembled]
  exact (List.map_congr_left fun a _ => a.rename_nil).trans (List.map_id _)

/-- A document differs from the one without alias sets in the names of operations alone: each of
them is what all pairs in force, in the order of their declaration, make of it at once. -/
theorem compose_renamed {requested : Value} {d : Document}
    (composed : (l.compose store requested roles).result = .ok d) :
    ∃ plain, (l.withoutAliases.compose store requested roles).result = .ok plain ∧
      d.tier = plain.tier ∧ d.roles = plain.roles ∧ d.library = plain.library ∧
      d.fragmentIds = plain.fragmentIds ∧
      List.Forall₂ (Statement.RenamedBy (pairsInForce store l.aliases)) plain.statements
        d.statements := by
  obtain ⟨tier, asked, declared, known, resolves, rfl⟩ := compose_eq_ok_iff.mp composed
  refine ⟨l.withoutAliases.assembled store tier roles, ?_, rfl, rfl, rfl, rfl, ?_⟩
  · exact compose_eq_ok_iff.mpr
      ⟨tier, asked, declared, known, resolves.withoutAliases, rfl⟩
  · rw [assembled_withoutAliases, assembled, List.forall₂_map_right_iff, List.forall₂_same]
    intro a _
    exact a.renamedBy_rename _

/-- Renames of which some lead to the source of another one, in a later set as well, and a set
that is not in force. -/
def chainedLibrary : Library where
  name := "chained"
  posture := ⟨"posture", [.leaf ⟨.deny, ["default"], [], ["no-log"], none⟩], .always, ""⟩
  base := [⟨"files", [.leaf ⟨.allow, ["file-read*", "file*", "file-write*", "signal"],
    [.only .subpath (.text "/tmp") []], [], none⟩], .always, ""⟩]
  tiers := []
  addenda := []
  aliases := [⟨.always, [("file-read*", "file*"), ("file*", "file-write*")]⟩,
    ⟨.not .always, [("signal", "process*")]⟩,
    ⟨.always, [("file-read*", "file-write*"), ("file-write*", "file-read*")]⟩]
  ids_nodup := by decide

def chainedDocument : Document where
  statements := [⟨.deny, ["default"], [], ["no-log"], none⟩,
    ⟨.allow, ["file-write*", "file-write*", "file-read*", "signal"],
      [.only .subpath (.text "/tmp") []], [], none⟩]
  tier := none
  roles := []
  fragmentIds := ["posture", "files"]
  library := "chained"

theorem compose_renamed_chained :
    (chainedLibrary.compose emptyStore .null []).result = .ok chainedDocument ∧
    ∃ plain, (chainedLibrary.withoutAliases.compose emptyStore .null []).result = .ok plain ∧
      chainedDocument.tier = plain.tier ∧ chainedDocument.roles = plain.roles ∧
      chainedDocument.library = plain.library ∧
      chainedDocument.fragmentIds = plain.fragmentIds ∧
      List.Forall₂ (Statement.RenamedBy (pairsInForce emptyStore chainedLibrary.aliases))
        plain.statements chainedDocument.statements := by
  have composed : (chainedLibrary.compose emptyStore .null []).result = .ok chainedDocument := rfl
  exact ⟨composed, compose_renamed composed⟩

end Library
end SandboxProfile
