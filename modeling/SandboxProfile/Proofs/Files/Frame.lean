import SandboxProfile.Proofs.Files.Disk

/-! What the actions on a disk leave alone, whether they succeed or not. An action changes no
file apart from those at the ends of its paths, and making folders changes no file at all. -/
namespace SandboxProfile.Files
open Procedure

/-- The file at a place, with its mode. -/
def Tree.file? (t : Tree) (p : Place) : Option (List UInt8 × Nat) :=
  match t.entry? p with
  | some (.file content mode) => some (content, mode)
  | _ => none

/-- The place that a path names, whether or not there is a way to it. -/
def Tree.destination (folder : Place) (path : String) : Place :=
  (Text.split '/' path).foldl step (if path.toList.head? = some '/' then [] else folder)

namespace Tree
variable {t : Tree} {p q : Place}

theorem walk_eq_foldl {names : List String} (led : t.walk p names = .ok q) :
    q = names.foldl step p := by
  induction names generalizing p with
  | nil => exact (Except.ok.inj led).symm
  | cons name rest ih =>
    unfold walk at led
    split at led
    · contradiction
    · contradiction
    · exact ih led

/-- A path that leads somewhere leads to the place that it names. -/
theorem eq_destination {folder : Place} {path : String} (led : t.locate folder path = .ok q) :
    q = destination folder path := by
  unfold locate at led
  split at led
  · contradiction
  · exact walk_eq_foldl led

theorem file?_of_file {content : List UInt8} {mode : Nat}
    (there : t.entry? p = some (.file content mode)) : t.file? p = some (content, mode) := by
  rw [ file?, there]

theorem file?_of_missing (missing : t.entry? p = none) : t.file? p = none := by
  rw [ file?, missing]

theorem file?_of_folder (folder : t.entry? p = some .folder) : t.file? p = none := by
  rw [ file?, folder]

theorem file?_erase_of_ne (other : q ≠ p) : Tree.file? (t.erase p) q = t.file? q := by
  unfold file?
  rw [entry?_erase_of_ne other]

theorem file?_erase_self : Tree.file? (t.erase p) p = none := by
  by_cases root : p = []
  · exact file?_of_folder (by rw [ entry?, if_pos root])
  · exact file?_of_missing (entry?_erase_self root)

end Tree

namespace Disk

def file? (d : Disk) (p : Place) : Option (List UInt8 × Nat) := d.tree.file? p

def destination (d : Disk) (path : String) : Place := Tree.destination d.current path

/-- Apart from some places, there are the same files on two disks. -/
structure KeepsFiles (places : List Place) (d d' : Disk) : Prop where
  current : d'.current = d.current
  files : ∀ r, r ∉ places → d'.file? r = d.file? r

theorem ChangedAt.keepsFiles {places : List Place} {d d' : Disk} (changed : ChangedAt places d d') :
    d.KeepsFiles places d' where
  current := changed.current
  files r other := by
    unfold file? Tree.file?
    rw [changed.others r other]

namespace KeepsFiles
variable {places more : List Place} {d d' d'' : Disk}

theorem refl (places : List Place) (d : Disk) : d.KeepsFiles places d := ⟨rfl, fun _ _ => rfl⟩

theorem trans (first : d.KeepsFiles places d') (second : d'.KeepsFiles places d'') :
    d.KeepsFiles places d'' where
  current := second.current.trans first.current
  files r other := (second.files r other).trans (first.files r other)

theorem mono (kept : d.KeepsFiles places d') (within : places ⊆ more) : d.KeepsFiles more d' where
  current := kept.current
  files r other := kept.files r fun member => other (within member)

theorem destination (kept : d.KeepsFiles places d') (path : String) :
    d'.destination path = d.destination path := by
  rw [Disk.destination, kept.current, Disk.destination]

end KeepsFiles
end Disk

/-! ### Sequences -/

variable {places : List Place} {d d' : Disk} {α β : Type}

theorem keepsFiles_bind {x : Filing α} {f : α → Filing β}
    (first : d.KeepsFiles places (on x d).2)
    (next : ∀ a d', on x d = (.ok a, d') → d'.KeepsFiles places (on (f a) d').2) :
    d.KeepsFiles places (on (x >>= f) d).2 := by
  rw [on_bind]
  rcases result : on x d with ⟨fault | a, d'⟩
  · rwa [result] at first
  · rw [result] at first
    exact first.trans (next a d' result)

theorem keepsFiles_tryCatch {x : Filing α} {rescue : Fault → Filing α}
    (first : d.KeepsFiles places (on x d).2)
    (next : ∀ fault d', on x d = (.error fault, d') →
      d'.KeepsFiles places (on (rescue fault) d').2) :
    d.KeepsFiles places (on (tryCatch x rescue) d).2 := by
  rw [on_tryCatch]
  rcases result : on x d with ⟨fault | a, d'⟩
  · rw [result] at first
    exact first.trans (next fault d' result)
  · rwa [result] at first

/-! ### Actions -/

theorem on_onTree_eq_error {path : String} {target : Option String}
    {f : Disk → Except FaultKind (α × Tree)} {fault : Fault}
    (failed : on (onTree path target f) d = (.error fault, d')) : d' = d := by
  rw [on_onTree] at failed
  split at failed
  · exact (Prod.mk.inj failed).2.symm
  · cases failed

/-- One step on a tree changes nothing if it fails. -/
theorem keepsFiles_onTree {path : String} {target : Option String}
    {f : Disk → Except FaultKind (α × Tree)}
    (changed : ∀ a t, f d = .ok (a, t) → d.KeepsFiles places (d.withTree t)) :
    d.KeepsFiles places (on (onTree path target f) d).2 := by
  rcases result : on (onTree path target f) d with ⟨fault | a, d'⟩
  · rw [on_onTree_eq_error result]
    exact .refl places d
  · obtain ⟨t, done, rfl⟩ := on_onTree_eq_ok.mp result
    exact changed a t done

/-- A folder is made only where nothing is. -/
theorem makeFolder_keepsFiles (path : String) (d : Disk) :
    d.KeepsFiles [] (on (makeFolder path) d).2 := by
  refine keepsFiles_onTree fun _ t made => ?_
  obtain ⟨p, led, made⟩ := Outcome.bind_eq_ok.mp made
  split at made
  · contradiction
  · next free =>
    obtain ⟨-, rfl⟩ := Prod.mk.inj (Except.ok.inj made)
    have missing : d.tree.entry? p = none := by simpa using free
    refine ⟨rfl, fun r _ => ?_⟩
    show Tree.file? (d.tree.set p .folder) r = d.tree.file? r
    by_cases same : r = p
    · subst same
      have inside := Tree.ne_root (Tree.ne_folder_of_missing missing)
      rw [Tree.file?_of_missing missing, Tree.file?, Tree.entry?_set_self inside]
    · unfold Tree.file?
      rw [Tree.entry?_set_of_ne same]

theorem makeFolderIfAbsent_keepsFiles (path : String) (d : Disk) :
    d.KeepsFiles [] (on (makeFolderIfAbsent path) d).2 := by
  refine keepsFiles_tryCatch (makeFolder_keepsFiles path d) fun fault d' _ => ?_
  refine keepsFiles_bind (.refl _ d') fun seen d'' _ => ?_
  split <;> exact .refl _ d''

/-- By induction on the names, the innermost first. -/
theorem makeFolders_ofParts_keepsFiles (root : String) (parts : List String) (d : Disk) :
    d.KeepsFiles [] (on (makeFolders.ofParts root parts) d).2 := by
  induction parts generalizing d with
  | nil => exact makeFolderIfAbsent_keepsFiles _ d
  | cons name outer ih =>
    refine keepsFiles_tryCatch (makeFolderIfAbsent_keepsFiles _ d) fun fault d' _ => ?_
    have around (d : Disk) := keepsFiles_bind (ih d) fun _ d' _ =>
      makeFolderIfAbsent_keepsFiles (Path.toText ⟨root, (name :: outer).reverse⟩) d'
    split
    · exact .refl _ d'
    · exact around d'

theorem makeFolders_keepsFiles (p : Path) (d : Disk) :
    d.KeepsFiles [] (on (makeFolders p) d).2 :=
  makeFolders_ofParts_keepsFiles p.root p.parts.reverse d

/-- Removing a file removes it alone. -/
theorem removeFile_keepsFiles (path : String) (d : Disk) :
    d.KeepsFiles [d.destination path] (on (removeFile path) d).2 := by
  refine keepsFiles_onTree fun _ t removed => ?_
  split at removed
  · obtain ⟨-, rfl⟩ := Prod.mk.inj (Except.ok.inj removed)
    exact .refl _ d
  · contradiction
  · contradiction
  · next p content mode found =>
    obtain ⟨-, rfl⟩ := Prod.mk.inj (Except.ok.inj removed)
    obtain ⟨led, -⟩ := Tree.find_eq_ok_iff.mp found
    refine ⟨rfl, fun r other => ?_⟩
    have different : r ≠ p := by
      rintro rfl
      exact other (List.mem_singleton.mpr (Tree.eq_destination led))
    exact Tree.file?_erase_of_ne different

/-- There is no file where a path leads after it has been removed, and none where there was
none. -/
theorem removeFile_clears {path : String} {q : Place}
    (reachable : d.file? q = none ∨ d.tree.locate d.current path = .ok q) :
    (on (removeFile path) d).2.file? q = none := by
  unfold removeFile
  rw [on_onTree]
  rcases reachable with free | led
  · split
    · exact free
    · next removed =>
      split at removed
      · obtain ⟨-, rfl⟩ := Prod.mk.inj (Except.ok.inj removed)
        exact free
      · contradiction
      · contradiction
      · next p content mode found =>
        obtain ⟨-, rfl⟩ := Prod.mk.inj (Except.ok.inj removed)
        by_cases same : q = p
        · rw [same]
          exact Tree.file?_erase_self
        · exact (Tree.file?_erase_of_ne same).trans free
  · cases there : d.tree.entry? q with
    | none =>
      have missing : d.find path = .error .absent := by
        rw [Disk.find, Tree.find, led, Outcome.ok_bind, there]
      rw [missing]
      exact Tree.file?_of_missing there
    | some e =>
      rw [show d.find path = .ok (q, e) from Tree.find_eq_ok_iff.mpr ⟨led, there⟩]
      cases e with
      | folder => exact Tree.file?_of_folder there
      | file content mode => exact Tree.file?_erase_self

/-- The mode of a file can be set. -/
theorem exists_setMode {path : String} {p : Place} {content : List UInt8} {old : Nat}
    (found : d.find path = .ok (p, .file content old)) (mode : Nat) :
    ∃ d', on (setMode path mode) d = (.ok (), d') := by
  unfold setMode
  rw [on_onTree, found]
  exact ⟨_, rfl⟩

end SandboxProfile.Files
