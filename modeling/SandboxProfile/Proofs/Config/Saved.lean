import SandboxProfile.Config.Save
import SandboxProfile.Proofs.Config.Reading
import SandboxProfile.Proofs.Files.Disk
import SandboxProfile.Proofs.Text.Utf8
import SandboxProfile.Proofs.Toml.Section

/-! Saving and loading. The table of a configuration is read back from what is written for it,
what has been saved stands at the end of its path, and a configuration that is loaded from there
is the one that was saved. -/
namespace SandboxProfile.Config
open Files (Disk Path Place)
open Procedure
variable {d d' : Disk} {p : Path}

/-- What is written through stands at the end of its path, whatever was there before. -/
theorem writeThrough_eq_ok {text? : Option String}
    (written : on (writeThrough p text?) d = (.ok true, d')) :
    ∃ text q mode, text? = some text ∧
      d'.find p.toText = .ok (q, .file text.toUTF8.toList mode) := by
  unfold writeThrough at written
  obtain ⟨place, opened, opening, written⟩ := on_bind_eq_ok.mp written
  cases text? with
  | none => simp at written
  | some text =>
    obtain ⟨_, filled, writing, written⟩ := on_bind_eq_ok.mp written
    obtain ⟨_, moved, moving, written⟩ := on_bind_eq_ok.mp written
    obtain ⟨-, rfl⟩ := Prod.mk.inj written
    obtain ⟨led, emptied, -⟩ := Files.openForWriting_eq_ok opening
    obtain ⟨refilled, mode, there⟩ := Files.writeOpened_eq_ok writing
    obtain ⟨source, q, content, mode', found, target, replaced, arrived, -⟩ :=
      Files.move_eq_ok moving
    -- The path that was opened still leads to the place that was written.
    obtain ⟨sourceLed, sourceThere⟩ := Files.Tree.find_eq_ok_iff.mp found
    obtain rfl := Except.ok.inj (sourceLed.symm.trans (refilled.locate (emptied.locate led)))
    obtain ⟨rfl, rfl⟩ := Files.Entry.file.inj (Option.some.inj (sourceThere.symm.trans there))
    exact ⟨text, q, _, rfl, Files.Tree.find_eq_ok_iff.mpr ⟨replaced.locate target, arrived⟩⟩

/-- The end of a saving that has gone wrong: the temporary file is removed. -/
def giveUp (p : Path) (fault : Option Files.Fault) (d : Disk) : Except SaveFault Path × Disk :=
  match on (Files.removeFile (temporary p).toText) d with
  | (.ok _, d') => (.error (.unwritten p.toText fault), d')
  | (.error fault, d') => (.error (.file fault), d')

theorem giveUp_ne_ok {fault : Option Files.Fault} {saved : Path} (d : Disk) :
    giveUp p fault d ≠ (.ok saved, d') := by
  unfold giveUp
  split <;> exact nofun

/-- The steps of a saving, one after the other. -/
theorem save_eq (entries : List (Value × Value)) (p : Path) (d : Disk) : save entries p d =
    match on (Files.makeFolders p.parent) d with
    | (.error fault, d₁) => (.error (.file fault), d₁)
    | (.ok _, d₁) =>
      if p.name = "" then (.error (.noName p.toText), d₁)
      else
        match on (writeThrough p (Toml.write? entries)) d₁ with
        | (.ok false, d₂) => giveUp p none d₂
        | (.error fault, d₂) => giveUp p (some fault) d₂
        | (.ok true, d₂) =>
          match on (Files.setMode p.toText savedMode) d₂ with
          | (.ok _, d₃) => (.ok p, d₃)
          | (.error fault, d₃) => (.error (.file fault), d₃) := by
  show on (saveTable entries p) d = _
  unfold saveTable
  rw [on_bind, on_adapt]
  rcases on (Files.makeFolders p.parent) d with ⟨fault | _, d₁⟩
  · rfl
  · by_cases nameless : p.name = ""
    · simp only [if_pos nameless]
      rfl
    · simp only [if_neg nameless, Outcome.mapError_ok]
      rw [on_bind, on_attempt]
      rcases on (writeThrough p (Toml.write? entries)) d₁ with ⟨fault | whole, d₂⟩
      · dsimp only
        rw [on_bind, on_bind, on_adapt, giveUp]
        rcases on (Files.removeFile (temporary p).toText) d₂ with ⟨again | _, d₃⟩ <;> rfl
      · cases whole with
        | false =>
          dsimp only
          rw [on_bind, on_bind, on_adapt, giveUp]
          rcases on (Files.removeFile (temporary p).toText) d₂ with ⟨again | _, d₃⟩ <;> rfl
        | true =>
          dsimp only
          rw [on_bind, on_adapt]
          rcases on (Files.setMode p.toText savedMode) d₂ with ⟨fault | _, d₃⟩ <;> rfl

/-- A table that was saved stands at the end of the path, and the owner alone may read it. -/
theorem save_eq_ok {entries : List (Value × Value)} {saved : Path}
    (given : save entries p d = (.ok saved, d')) :
    ∃ text q, Toml.write? entries = some text ∧ saved = p ∧
      d'.find p.toText = .ok (q, .file text.toUTF8.toList savedMode) := by
  rw [save_eq] at given
  split at given
  · cases given
  · split at given
    · cases given
    · split at given
      · exact absurd given (giveUp_ne_ok _)
      · exact absurd given (giveUp_ne_ok _)
      · next d₂ writing =>
        obtain ⟨text, q, mode, written, found⟩ := writeThrough_eq_ok writing
        split at given
        · next d₃ setting =>
          obtain ⟨same, rfl⟩ := Prod.mk.inj given
          obtain ⟨changed, there⟩ := Files.setMode_eq_ok found setting
          obtain ⟨led, -⟩ := Files.Tree.find_eq_ok_iff.mp found
          exact ⟨text, q, written, (Except.ok.inj same).symm,
            Files.Tree.find_eq_ok_iff.mpr ⟨changed.locate led, there⟩⟩
        · cases given

/-! ### Loading -/

theorem readFile_of_find {text path : String} {entries : List (Value × Value)} {q : Place}
    {mode : Nat} (found : d.find path = .ok (q, .file text.toUTF8.toList mode))
    (reads : Toml.load text = .ok entries) : readFile d path = .ok entries := by
  rw [readFile, Disk.read, found]
  dsimp only
  rw [Text.decodeUtf8_toUTF8]
  dsimp only
  rw [reads]

/-- No variable is set that would overlay the file. -/
def Silent (env : Environment) : Prop := ∀ entry ∈ Override.known, env.value? entry.1 = none

theorem overlay_of_silent {env : Environment} (silent : Silent env)
    (entries : List (Value × Value)) : env.overlay entries = .ok entries := by
  have none : Override.ofEnvironment env = [] := by
    refine List.filterMap_eq_nil_iff.mpr fun entry member => ?_
    obtain ⟨name, group, key, read⟩ := entry
    exact Option.map_eq_none_iff.mpr (silent _ member)
  rw [Environment.overlay, none]
  rfl

/-- The table of a configuration stands for that configuration wherever nothing overlays
it. -/
theorem ofEnvironment_toTable {env : Environment} (silent : Silent env) (c : Config) :
    ofEnvironment env c.toTable = .ok c := by
  rw [ofEnvironment, overlay_of_silent silent]
  dsimp only
  rw [ofTable_toTable]

/-! ### The text of a configuration -/

theorem forall_sections {p : String × List (String × Value) → Prop} (c : Config)
    (logging : p ("logging", c.logging.settings)) (compile : p ("compile", c.compile.settings))
    (platform : p ("platform", c.platform.settings)) : ∀ part ∈ c.sections, p part :=
  List.forall_mem_cons.mpr ⟨logging, List.forall_mem_cons.mpr ⟨compile,
    List.forall_mem_singleton.mpr platform⟩⟩

theorem distinct_keys (c : Config) : ∀ part ∈ c.sections, (part.2.map (·.1)).Nodup := by
  refine c.forall_sections ?_ ?_ ?_
  · show ["level", "format"].Nodup
    decide
  · unfold CompileDefaults.settings
    split
    · show ["library", "default_tier", "default_roles"].Nodup
      decide
    · show ["library", "default_roles", "default_tier"].Nodup
      decide
  · unfold PlatformSettings.settings
    split
    · show ["family", "min_version", "max_version"].Nodup
      decide
    · show ["family", "min_version"].Nodup
      decide

theorem plain_settings (c : Config) :
    ∀ part ∈ c.sections, ∀ setting ∈ part.2, Toml.Plain setting.2 := by
  have digit (t : Tier) : Toml.Plain (.int t.toNat) := .digit (by cases t <;> decide)
  have zero : Toml.Plain (.int 0) := .digit (n := 0) (by decide)
  refine c.forall_sections ?_ ?_ ?_
  · simp [LogSettings.settings, Toml.Plain.text]
  · unfold CompileDefaults.settings
    split <;> simp [Toml.Plain.text, Toml.Plain.texts, digit, zero]
  · unfold PlatformSettings.settings
    split <;> simp [Toml.Plain.text]

/-- The table of a configuration has a text, from which it is read back. -/
theorem load_write_toTable (c : Config) :
    ∃ text, Toml.write? c.toTable = some text ∧ Toml.load text = .ok c.toTable := by
  have names : (c.sections.map (·.1)).Nodup := by
    show ["logging", "compile", "platform"].Nodup
    decide
  exact Toml.load_write names c.distinct_keys c.plain_settings

/-- A configuration is read from the table that it is written as, and this table from its text.
So what was saved and is loaded again, from where it was named or from where the environment has
its place, is the configuration that was saved. -/
theorem load_saved (c : Config) : ofTable c.toTable = .fits c ∧
    (∃ text, Toml.write? c.toTable = some text ∧ Toml.load text = .ok c.toTable) ∧
    ∀ (d d' : Disk) (p saved : Path), save c.toTable p d = (.ok saved, d') →
      ∀ (env : Environment) (named : Option Path), Silent env →
        named.getD env.configPath = saved → load d' env named = .ok c := by
  obtain ⟨whole, wholeWritten, reads⟩ := load_write_toTable c
  refine ⟨ofTable_toTable c, ⟨whole, wholeWritten, reads⟩, ?_⟩
  intro d d' p saved given env named silent place
  obtain ⟨text, q, written, rfl, found⟩ := save_eq_ok given
  obtain rfl := Option.some.inj (wholeWritten.symm.trans written)
  have there : d'.holds saved.toText = true := by
    rw [Disk.holds, found]
  have table : source d' env named = .ok c.toTable := by
    rw [source, place, if_pos there, readFile_of_find found reads]
  rw [load, table, Outcome.ok_bind, ofEnvironment_toTable silent]

/-- No tier, no greatest version, and names of roles with a comma and with blanks. -/
def sparseConfig : Config where
  logging := ⟨.debug, .json⟩
  compile := ⟨"a \"library\"", none, ["a,b", " c "]⟩
  platform := ⟨.macos, .oldest, none⟩

def sparseText : String :=
  "[logging]\nlevel = \"DEBUG\"\nformat = \"json\"\n\n" ++
  "[compile]\nlibrary = \"a \\\"library\\\"\"\ndefault_roles = [\n    \"a,b\",\n" ++
  "    \" c \",\n]\ndefault_tier = 0\n\n[platform]\nfamily = \"macos\"\nmin_version = \"10.15\"\n"

def bareDisk : Disk := ⟨[], [], fun _ _ => false⟩

/-- Saved on a disk with nothing on it, and loaded from where the environment has it. -/
theorem load_saved_sparse :
    let p : Path := ⟨"/", ["e", "c.toml"]⟩
    let env : Environment := [("SBPROFILE_CONFIG", "/e/c.toml"), ("SBPROFILE_LOG_LEVEL", "")]
    Toml.write? sparseConfig.toTable = some sparseText ∧
    (save sparseConfig.toTable p bareDisk).1 = .ok p ∧ Silent env ∧ env.configPath = p ∧
    load (save sparseConfig.toTable p bareDisk).2 env none = .ok sparseConfig := by
  intro p env
  have written : Toml.write? sparseConfig.toTable = some sparseText := by decide +kernel
  have saved : (save sparseConfig.toTable p bareDisk).1 = .ok p :=
    Outcome.eq_ok_of_toOption (by decide +kernel)
  have silent : Silent env := by
    unfold Silent
    decide
  have place : env.configPath = p := by decide
  have loaded := (load_saved sparseConfig).2.2 bareDisk _ p p (Prod.ext saved rfl) env none silent
    place
  exact ⟨written, saved, silent, place, loaded⟩

end SandboxProfile.Config
