import SandboxProfile.Files.Disk
import SandboxProfile.Proofs.Files.Tree
import SandboxProfile.Proofs.Procedure

/-! What the actions on a disk do if they succeed. Each of them changes the entries at one or
two places and no folder, so that every path leads to where it led before. -/
namespace SandboxProfile.Files
open Procedure
variable {d d' : Disk} {path source target : String} {p q : Place} {α : Type}

/-- A disk with another tree. -/
def Disk.withTree (d : Disk) (t : Tree) : Disk := { d with tree := t }

/-- One disk has come from another by changes at some places where there is no folder, neither
before nor behind them. -/
structure Disk.ChangedAt (places : List Place) (d d' : Disk) : Prop where
  current : d'.current = d.current
  others : ∀ r, r ∉ places → d'.tree.entry? r = d.tree.entry? r
  before : ∀ r ∈ places, d.tree.entry? r ≠ some .folder
  behind : ∀ r ∈ places, d'.tree.entry? r ≠ some .folder

namespace Disk.ChangedAt
variable {places : List Place}

theorem keepsFolders (changed : ChangedAt places d d') : d.tree.KeepsFolders d'.tree := by
  intro r folder
  rwa [changed.others r fun member => changed.before r member folder]

/-- A path leads to where it led before. -/
theorem locate (changed : ChangedAt places d d')
    (led : d.tree.locate d.current path = .ok p) : d'.tree.locate d'.current path = .ok p := by
  rw [changed.current]
  exact Tree.locate_of_keepsFolders changed.keepsFolders led

theorem set (noFolder : d.tree.entry? p ≠ some .folder) (content : List UInt8) (mode : Nat) :
    ChangedAt [p] d (d.withTree (d.tree.set p (.file content mode))) where
  current := rfl
  others r other := Tree.entry?_set_of_ne fun same => other (List.mem_singleton.mpr same)
  before r member := by rwa [List.mem_singleton.mp member]
  behind r member := by
    rw [List.mem_singleton.mp member]
    exact Tree.ne_folder_of_file (Tree.entry?_set_self (Tree.ne_root noFolder))

end Disk.ChangedAt

/-! ### Actions -/

theorem on_onTree (path : String) (target : Option String)
    (f : Disk → Except FaultKind (α × Tree)) (d : Disk) : on (onTree path target f) d =
      match f d with
      | .error kind => (.error ⟨kind, path, target⟩, d)
      | .ok (a, t) => (.ok a, d.withTree t) := by
  unfold onTree
  rw [on_bind, on_get]
  dsimp only
  cases f d with
  | error kind => rfl
  | ok result => rfl

theorem on_onTree_eq_ok {path : String} {target : Option String}
    {f : Disk → Except FaultKind (α × Tree)} {a : α} :
    on (onTree path target f) d = (.ok a, d') ↔ ∃ t, f d = .ok (a, t) ∧ d' = d.withTree t := by
  rw [on_onTree]
  cases f d with
  | error kind => simp
  | ok result =>
    obtain ⟨b, t⟩ := result
    simp [and_assoc, eq_comm]

/-- A file is opened where its path leads, unless a folder is there. It is empty from then
on. -/
theorem openForWriting_eq_ok (opened : on (openForWriting path) d = (.ok p, d')) :
    d.tree.locate d.current path = .ok p ∧ d.ChangedAt [p] d' ∧
      ∃ mode, d'.tree.entry? p = some (.file [] mode) := by
  obtain ⟨t, done, rfl⟩ := on_onTree_eq_ok.mp opened
  obtain ⟨q, led, done⟩ := Outcome.bind_eq_ok.mp done
  suffices emptied : d.tree.entry? q ≠ some .folder ∧
      ∃ mode, q = p ∧ d.tree.set q (.file [] mode) = t by
    obtain ⟨noFolder, mode, rfl, rfl⟩ := emptied
    exact ⟨led, .set noFolder [] mode, mode, Tree.entry?_set_self (Tree.ne_root noFolder)⟩
  split at done
  · contradiction
  · next old mode there =>
    split at done
    · contradiction
    · exact ⟨Tree.ne_folder_of_file there, mode, Prod.mk.inj (Except.ok.inj done)⟩
  · next missing =>
    split at done
    · contradiction
    · exact ⟨Tree.ne_folder_of_missing missing, newFileMode, Prod.mk.inj (Except.ok.inj done)⟩

theorem writeOpened_eq_ok {content : List UInt8}
    (written : on (writeOpened path p content) d = (.ok (), d')) :
    d.ChangedAt [p] d' ∧ ∃ mode, d'.tree.entry? p = some (.file content mode) := by
  obtain ⟨t, done, rfl⟩ := on_onTree_eq_ok.mp written
  dsimp only at done
  split at done
  · contradiction
  · split at done
    · next old mode there =>
      obtain ⟨-, rfl⟩ := Prod.mk.inj (Except.ok.inj done)
      have noFolder := Tree.ne_folder_of_file there
      exact ⟨.set noFolder content mode, mode, Tree.entry?_set_self (Tree.ne_root noFolder)⟩
    · contradiction

/-- A file that is moved leaves its place, and what it takes the place of is no folder. -/
theorem move_eq_ok (moved : on (move source target) d = (.ok (), d')) :
    ∃ p q content mode, d.find source = .ok (p, .file content mode) ∧
      d.tree.locate d.current target = .ok q ∧ d.ChangedAt [p, q] d' ∧
      d'.tree.entry? q = some (.file content mode) ∧ (p ≠ q → d'.tree.entry? p = none) := by
  obtain ⟨t, done, rfl⟩ := on_onTree_eq_ok.mp moved
  obtain ⟨⟨p, e⟩, found, done⟩ := Outcome.bind_eq_ok.mp done
  obtain ⟨q, led, done⟩ := Outcome.bind_eq_ok.mp done
  split at done
  · contradiction
  · contradiction
  · next content mode _ noFolder =>
    split at done
    · contradiction
    · obtain ⟨-, rfl⟩ := Prod.mk.inj (Except.ok.inj done)
      obtain ⟨sourceLed, there⟩ := Tree.find_eq_ok_iff.mp found
      have file := Tree.ne_folder_of_file there
      have arrived : Tree.entry? ((d.tree.erase p).set q (.file content mode)) q =
          some (.file content mode) := Tree.entry?_set_self (Tree.ne_root noFolder)
      have left (different : p ≠ q) :
          Tree.entry? ((d.tree.erase p).set q (.file content mode)) p = none :=
        (Tree.entry?_set_of_ne different).trans (Tree.entry?_erase_self (Tree.ne_root file))
      refine ⟨p, q, content, mode, found, led, ⟨rfl, ?_, ?_, ?_⟩, arrived, left⟩
      · intro r other
        simp only [List.mem_cons, List.not_mem_nil, or_false, not_or] at other
        exact (Tree.entry?_set_of_ne other.2).trans (Tree.entry?_erase_of_ne other.1)
      · simp only [List.forall_mem_cons]
        exact ⟨file, noFolder, nofun⟩
      · simp only [List.forall_mem_cons]
        refine ⟨?_, Tree.ne_folder_of_file arrived, nofun⟩
        by_cases same : p = q
        · subst same
          exact Tree.ne_folder_of_file arrived
        · exact Tree.ne_folder_of_missing (left same)

/-- Setting a mode keeps the contents. -/
theorem setMode_eq_ok {content : List UInt8} {old mode : Nat}
    (found : d.find path = .ok (p, .file content old))
    (changed : on (setMode path mode) d = (.ok (), d')) :
    d.ChangedAt [p] d' ∧ d'.tree.entry? p = some (.file content mode) := by
  obtain ⟨t, done, rfl⟩ := on_onTree_eq_ok.mp changed
  rw [found] at done
  obtain ⟨-, rfl⟩ := Prod.mk.inj (Except.ok.inj done)
  have noFolder := Tree.ne_folder_of_file (Tree.find_eq_ok_iff.mp found).2
  exact ⟨.set noFolder content mode, Tree.entry?_set_self (Tree.ne_root noFolder)⟩

end SandboxProfile.Files
