import SandboxProfile.Proofs.Config.Saved
import SandboxProfile.Proofs.Files.Frame

/-! What a save does to the files of a disk. It either puts the whole table in its place or leaves
the file there as it was, and it leaves all other files alone, if there is no file yet where the
temporary one is put. A file there is lost, and it can be the one that is to be replaced. -/
namespace SandboxProfile.Config
open Files (Disk Path Place)
open Procedure
variable {d d' : Disk} {p : Path} {text? : Option String}

/-- The place where a save puts its file. -/
def target (p : Path) (d : Disk) : Place := d.destination p.toText

/-- The place of the temporary file. -/
def spare (p : Path) (d : Disk) : Place := d.destination (temporary p).toText

/-- What is written through has arrived. Nothing is left of the temporary file. -/
structure Arrived (p : Path) (d d' : Disk) : Prop where
  kept : d.KeepsFiles [spare p d, target p d] d'
  moved : spare p d ≠ target p d → d'.file? (spare p d) = none

/-- Writing has gone wrong before anything was moved. Either nothing was opened, or there is a
way to the temporary file. -/
structure Abandoned (p : Path) (d d' : Disk) : Prop where
  kept : d.KeepsFiles [spare p d] d'
  reachable : d' = d ∨ d'.tree.locate d'.current (temporary p).toText = .ok (spare p d)

/-- The move takes the temporary file to its place. -/
theorem arrived_of_move {d₁ d₂ : Disk} (kept : d.KeepsFiles [spare p d] d₁)
    (reached : d₁.tree.locate d₁.current (temporary p).toText = .ok (spare p d))
    (moving : on (Files.move (temporary p).toText p.toText) d₁ = (.ok (), d₂)) :
    Arrived p d d₂ := by
  obtain ⟨source, q, content, mode, found, there, moved, -, left⟩ := Files.move_eq_ok moving
  obtain rfl := Except.ok.inj ((Files.Tree.find_eq_ok_iff.mp found).1.symm.trans reached)
  have arrived : q = target p d :=
    (Files.Tree.eq_destination there).trans (kept.destination _)
  subst arrived
  constructor
  · exact (kept.mono (by simp)).trans moved.keepsFiles
  · exact fun apart => Files.Tree.file?_of_missing (left apart)

/-- The ways in which writing through ends. Up to the move, which is the last step, nothing but
the temporary file is touched. -/
theorem writeThrough_cases (p : Path) (text? : Option String) (d : Disk) :
    match on (writeThrough p text?) d with
    | (.ok true, d') => Arrived p d d'
    | (_, d') => Abandoned p d d' := by
  unfold writeThrough
  rw [on_bind]
  rcases opening : on (Files.openForWriting (temporary p).toText) d with ⟨fault | place, d₁⟩
  · obtain rfl := Files.on_onTree_eq_error opening
    exact ⟨.refl _ _, .inl rfl⟩
  · obtain ⟨led, emptied, -⟩ := Files.openForWriting_eq_ok opening
    have named : place = spare p d := Files.Tree.eq_destination led
    subst named
    have opened : Abandoned p d d₁ := ⟨emptied.keepsFiles, .inr (emptied.locate led)⟩
    cases text? with
    | none => exact opened
    | some text =>
      dsimp only
      rw [on_bind]
      rcases writing : on (Files.writeOpened (temporary p).toText (spare p d)
        text.toUTF8.toList) d₁ with ⟨fault | _, d₂⟩
      · obtain rfl := Files.on_onTree_eq_error writing
        exact opened
      · obtain ⟨filled, -⟩ := Files.writeOpened_eq_ok writing
        have kept := opened.kept.trans filled.keepsFiles
        have reached := filled.locate (emptied.locate led)
        dsimp only
        rw [on_bind]
        rcases moving : on (Files.move (temporary p).toText p.toText) d₂ with ⟨fault | _, d₃⟩
        · obtain rfl := Files.on_onTree_eq_error moving
          exact ⟨kept, .inr reached⟩
        · exact arrived_of_move kept reached moving

/-- The table has been put in its place. Of all other files only the temporary one may have
changed, and nothing is left of it. -/
structure Done (entries : List (Value × Value)) (p : Path) (d d' : Disk) : Prop where
  written : ∃ text, Toml.write? entries = some text ∧
    d'.file? (target p d) = some (text.toUTF8.toList, savedMode)
  arrived : Arrived p d d'

/-- Nothing but the temporary file may have changed, and none has come into being. -/
structure Undone (p : Path) (d d' : Disk) : Prop where
  kept : d.KeepsFiles [spare p d] d'
  clear : d.file? (spare p d) = none → d'.file? (spare p d) = none

/-- What is taken back is the temporary file alone. -/
theorem Abandoned.undone (abandoned : Abandoned p d d') (fault : Option Files.Fault) :
    ∃ cause d'', giveUp p fault d' = (.error cause, d'') ∧ Undone p d d'' := by
  have removed : Undone p d (on (Files.removeFile (temporary p).toText) d').2 := by
    have same : d'.destination (temporary p).toText = spare p d := abandoned.kept.destination _
    have kept := Files.removeFile_keepsFiles (temporary p).toText d'
    rw [same] at kept
    refine ⟨abandoned.kept.trans kept, fun free => Files.removeFile_clears ?_⟩
    refine abandoned.reachable.imp ?_ id
    rintro rfl
    exact free
  unfold giveUp
  split <;> rename_i result <;> rw [result] at removed <;> exact ⟨_, _, rfl, removed⟩

theorem Arrived.done {entries : List (Value × Value)} (arrived : Arrived p d d')
    (writing : on (writeThrough p (Toml.write? entries)) d = (.ok true, d')) :
    ∃ d'', on (Files.setMode p.toText savedMode) d' = (.ok (), d'') ∧ Done entries p d d'' := by
  obtain ⟨text, q, mode, written, found⟩ := writeThrough_eq_ok writing
  obtain ⟨d'', setting⟩ := Files.exists_setMode found savedMode
  obtain ⟨changed, there⟩ := Files.setMode_eq_ok found setting
  have named : q = target p d := (Files.Tree.eq_destination
    (Files.Tree.find_eq_ok_iff.mp found).1).trans (arrived.kept.destination _)
  subst named
  refine ⟨d'', setting, ⟨text, written, Files.Tree.file?_of_file there⟩, ?_, fun apart => ?_⟩
  · exact arrived.kept.trans (changed.keepsFiles.mono (by simp))
  · rw [changed.keepsFiles.files _ fun member => apart (List.mem_singleton.mp member)]
    exact arrived.moved apart

section Folders
variable {entries : List (Value × Value)} {d₁ : Disk} (made : d.KeepsFiles [] d₁)
include made

/-- A disk with folders that were made has the same files, under the same paths. -/
theorem Done.behind (done : Done entries p d₁ d') : Done entries p d d' := by
  have sameTarget : target p d₁ = target p d := made.destination _
  have sameSpare : spare p d₁ = spare p d := made.destination _
  obtain ⟨written, kept, moved⟩ := done
  rw [sameTarget] at written kept moved
  rw [sameSpare] at kept moved
  exact ⟨written, (made.mono (List.nil_subset _)).trans kept, moved⟩

theorem Undone.behind (undone : Undone p d₁ d') : Undone p d d' := by
  have sameSpare : spare p d₁ = spare p d := made.destination _
  obtain ⟨kept, clear⟩ := undone
  rw [sameSpare] at kept clear
  refine ⟨(made.mono (List.nil_subset _)).trans kept, fun free => clear ?_⟩
  rw [made.files _ List.not_mem_nil, free]

end Folders

/-- A save ends in one of two ways. By following its steps: the folders that are made first
change no file, and from then on all hangs on the move. -/
theorem save_cases (entries : List (Value × Value)) (p : Path) (d : Disk) :
    (∃ d', save entries p d = (.ok p, d') ∧ Done entries p d d') ∨
    ∃ fault d', save entries p d = (.error fault, d') ∧ Undone p d d' := by
  rw [save_eq]
  have made := Files.makeFolders_keepsFiles p.parent d
  rcases folders : on (Files.makeFolders p.parent) d with ⟨fault | _, d₁⟩ <;> rw [folders] at made
  · exact .inr ⟨_, _, rfl, Undone.behind made ⟨.refl _ _, id⟩⟩
  · dsimp only
    split
    · exact .inr ⟨_, _, rfl, Undone.behind made ⟨.refl _ _, id⟩⟩
    · have ends := writeThrough_cases p (Toml.write? entries) d₁
      rcases writing : on (writeThrough p (Toml.write? entries)) d₁ with ⟨fault | whole, d₂⟩
      · rw [writing] at ends
        obtain ⟨cause, d', given, undone⟩ := Abandoned.undone ends (some fault)
        exact .inr ⟨cause, d', given, undone.behind made⟩
      · rw [writing] at ends
        cases whole with
        | false =>
          obtain ⟨cause, d', given, undone⟩ := Abandoned.undone ends none
          exact .inr ⟨cause, d', given, undone.behind made⟩
        | true =>
          obtain ⟨d', setting, done⟩ := Arrived.done ends writing
          dsimp only
          rw [setting]
          exact .inl ⟨d', rfl, done.behind made⟩

variable {entries : List (Value × Value)}

theorem done_of_save {saved : Path} (given : save entries p d = (.ok saved, d')) :
    Done entries p d d' := by
  rcases save_cases entries p d with ⟨d₁, same, done⟩ | ⟨fault, d₁, same, -⟩
  · obtain ⟨-, rfl⟩ := Prod.mk.inj (same.symm.trans given)
    exact done
  · cases same.symm.trans given

theorem undone_of_save {fault : SaveFault} (given : save entries p d = (.error fault, d')) :
    Undone p d d' := by
  rcases save_cases entries p d with ⟨d₁, same, -⟩ | ⟨other, d₁, same, undone⟩
  · cases same.symm.trans given
  · obtain ⟨-, rfl⟩ := Prod.mk.inj (same.symm.trans given)
    exact undone

/-- A save is atomic on a disk. What is there behind it is the table, for the owner alone and
without a temporary file, or the file that was there before; and all other files stay. -/
structure Atomic (entries : List (Value × Value)) (p : Path) (d : Disk) : Prop where
  done : ∀ saved d', save entries p d = (.ok saved, d') →
    (∃ text, Toml.write? entries = some text ∧
      d'.file? (target p d) = some (text.toUTF8.toList, savedMode)) ∧
    (spare p d ≠ target p d → d'.file? (spare p d) = none)
  undone : ∀ fault d', save entries p d = (.error fault, d') →
    d'.file? (target p d) = d.file? (target p d)
  others : ∀ outcome d', save entries p d = (outcome, d') → ∀ q ≠ target p d, ∀ file,
    d.file? q = some file → d'.file? q = some file

theorem atomic_of_free (free : d.file? (spare p d) = none) : Atomic entries p d where
  done saved d' given := by
    have done := done_of_save given
    exact ⟨done.written, done.arrived.moved⟩
  undone fault d' given := by
    have undone := undone_of_save given
    by_cases same : target p d = spare p d
    · rw [same, free]
      exact undone.clear free
    · exact undone.kept.files _ fun member => same (List.mem_singleton.mp member)
  others outcome d' given q other file there := by
    have taken : q ≠ spare p d := by
      rintro rfl
      rw [free] at there
      contradiction
    rcases outcome with fault | saved
    · rwa [(undone_of_save given).kept.files q fun member => taken (List.mem_singleton.mp member)]
    · rwa [(done_of_save given).arrived.kept.files q (by simp [other, taken])]

/-- A save is atomic if there is no file where the temporary one is put. In any case it either
fails or puts the whole table in its place; and no file changes but the one that is replaced,
which a failure leaves as it was, and the one where the temporary file is put. -/
theorem only_spare_at_risk (entries : List (Value × Value)) (p : Path) (d : Disk) :
    (d.file? (spare p d) = none → Atomic entries p d) ∧
    (∀ saved d', save entries p d = (.ok saved, d') →
      (∃ text, Toml.write? entries = some text ∧
        d'.file? (target p d) = some (text.toUTF8.toList, savedMode)) ∧
      ∀ q, q ≠ target p d → q ≠ spare p d → d'.file? q = d.file? q) ∧
    ∀ fault d', save entries p d = (.error fault, d') →
      ∀ q, q ≠ spare p d → d'.file? q = d.file? q := by
  refine ⟨atomic_of_free, ?_, ?_⟩
  · intro saved d' given
    have done := done_of_save given
    exact ⟨done.written, fun q other apart => done.arrived.kept.files q (by simp [other, apart])⟩
  · intro fault d' given q apart
    exact (undone_of_save given).kept.files q fun member => apart (List.mem_singleton.mp member)

def plainTable : List (Value × Value) := [(.text "tier", .int 2)]

/-- A table without a written form. -/
def unwritableTable : List (Value × Value) := [(.text "tier", .null)]

/-- A disk with one file in its current folder. -/
def diskWith (name content : String) : Disk :=
  ⟨[([name], .file content.toUTF8.toList Files.newFileMode)], [], fun _ _ => false⟩

/-- An old file is replaced, or stays when the new table cannot be written. -/
theorem only_spare_at_risk_old :
    let p : Path := ⟨"", ["c.toml"]⟩
    let d := diskWith "c.toml" "tier = 1\n"
    d.file? (spare p d) = none ∧ Atomic plainTable p d ∧ Atomic unwritableTable p d ∧
    (save plainTable p d).1 = .ok p ∧
    (save plainTable p d).2.file? (target p d) = some ("tier = 2\n".toUTF8.toList, savedMode) ∧
    (save unwritableTable p d).1 = .error (.unwritten "c.toml" none) ∧
    (save unwritableTable p d).2.file? (target p d) = d.file? (target p d) := by
  intro p d
  have free : d.file? (spare p d) = none := by decide +kernel
  have written : Toml.write? plainTable = some "tier = 2\n" := by decide +kernel
  have saved : (save plainTable p d).1 = .ok p := by decide +kernel
  have failed : (save unwritableTable p d).1 = .error (.unwritten "c.toml" none) := by
    decide +kernel
  obtain ⟨⟨text, wholly, there⟩, -⟩ :=
    (only_spare_at_risk plainTable p d).2.1 p _ (Prod.ext saved rfl)
  obtain rfl := Option.some.inj (written.symm.trans wholly)
  have stays := (only_spare_at_risk unwritableTable p d).2.2 _ _ (Prod.ext failed rfl)
  exact ⟨free, (only_spare_at_risk plainTable p d).1 free,
    (only_spare_at_risk unwritableTable p d).1 free, saved, there, failed,
    stays (target p d) (by decide +kernel)⟩

/-- It is not so that every save is atomic. A path with the extension of temporary files is its
own temporary file, which is removed when the table cannot be written; and a file that happens to
have the name of the temporary one is lost even if all goes well. -/
theorem not_atomic :
    ¬Atomic unwritableTable ⟨"", ["c.tmp"]⟩ (diskWith "c.tmp" "tier = 1\n") ∧
    ¬Atomic plainTable ⟨"", ["c.toml"]⟩ (diskWith "c.tmp" "tier = 1\n") := by
  refine ⟨fun atomic => ?_, fun atomic => ?_⟩
  · have failed : (save unwritableTable ⟨"", ["c.tmp"]⟩ (diskWith "c.tmp" "tier = 1\n")).1 =
        .error (.unwritten "c.tmp" none) := by decide +kernel
    exact absurd (atomic.undone _ _ (Prod.ext failed rfl)) (by decide +kernel)
  · have kept := atomic.others _ _ rfl ["c.tmp"] (by decide +kernel) _ rfl
    exact absurd kept (by decide +kernel)

end SandboxProfile.Config
