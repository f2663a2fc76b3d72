import SandboxProfile.Files.Tree
import SandboxProfile.Proofs.Outcome
import SandboxProfile.Proofs.Table

/-! What a change of a tree leaves as it was. Everything apart from the place that was changed
stays, and as long as the folders stay, a path leads to where it led before. -/
namespace SandboxProfile.Files.Tree
variable {t u : Tree} {p q r : Place} {e : Entry}

theorem entry?_set_self (inside : p ≠ []) : Tree.entry? (t.set p e) p = some e := by
  rw [ entry?, if_neg inside, set, Table.lookup_insert, if_pos (BEq.refl p)]

theorem entry?_set_of_ne (other : r ≠ p) : Tree.entry? (t.set p e) r = t.entry? r := by
  have different : ¬(r == p) = true := by simpa using other
  unfold entry? set
  rw [Table.lookup_insert, if_neg different]

theorem entry?_erase_self (inside : p ≠ []) : Tree.entry? (t.erase p) p = none := by
  rw [ entry?, if_neg inside, erase, List.lookup_eq_none_iff]
  intro entry member
  have different : entry.1 ≠ p := of_decide_eq_true (List.mem_filter.mp member).2
  exact bne_iff_ne.mpr different.symm

theorem entry?_erase_of_ne (other : r ≠ p) : Tree.entry? (t.erase p) r = t.entry? r := by
  unfold entry? erase
  rw [Table.lookup_filter fun _ => decide_eq_true other]

theorem ne_folder_of_file {content : List UInt8} {mode : Nat}
    (there : t.entry? p = some (.file content mode)) : t.entry? p ≠ some .folder := by
  rw [there]
  exact nofun

theorem ne_folder_of_missing (missing : t.entry? p = none) : t.entry? p ≠ some .folder := by
  rw [missing]
  exact nofun

/-- A place where there is no folder is not the root. -/
theorem ne_root (noFolder : t.entry? p ≠ some .folder) : p ≠ [] := by
  rintro rfl
  exact noFolder rfl

/-- Every folder of one tree is one of another. -/
def KeepsFolders (t u : Tree) : Prop := ∀ r, t.entry? r = some .folder → u.entry? r = some .folder

/-- By induction on the names: every one of them but the last leads to a folder. -/
theorem walk_of_keepsFolders (kept : t.KeepsFolders u) {names : List String}
    (led : t.walk p names = .ok q) : u.walk p names = .ok q := by
  induction names generalizing p with
  | nil => exact led
  | cons name rest ih =>
    unfold walk at led ⊢
    split at led
    · contradiction
    · contradiction
    · next folder =>
      rw [kept p folder]
      exact ih led

theorem locate_of_keepsFolders (kept : t.KeepsFolders u) {folder : Place} {path : String}
    (led : t.locate folder path = .ok q) : u.locate folder path = .ok q := by
  unfold locate at led ⊢
  split at led
  · contradiction
  · next some =>
    rw [if_neg some]
    exact walk_of_keepsFolders kept led

/-- Something is found at the end of a path if the path leads to it. -/
theorem find_eq_ok_iff {folder : Place} {path : String} :
    t.find folder path = .ok (p, e) ↔ t.locate folder path = .ok p ∧ t.entry? p = some e := by
  unfold find
  rw [Outcome.bind_eq_ok]
  constructor
  · rintro ⟨q, led, found⟩
    split at found
    · contradiction
    · next e' there =>
      obtain ⟨rfl, rfl⟩ := Prod.mk.inj (Except.ok.inj found)
      exact ⟨led, there⟩
  · rintro ⟨led, there⟩
    refine ⟨p, led, ?_⟩
    rw [there]

end SandboxProfile.Files.Tree
