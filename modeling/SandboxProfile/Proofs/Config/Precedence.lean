import SandboxProfile.Proofs.Config.Atomic
import SandboxProfile.Proofs.Config.Overlay

/-! The environment before the file. Each setting of a configuration depends on its own entry in the
table, and a variable that is set gives its setting that entry, whatever the table has there. So the
settings with a variable are those of the environment alone, and the others those of the file. -/
namespace SandboxProfile
open Files (Disk Path)

namespace Checked
variable {α β γ δ : Type} {key : String} {fallback a b : α} {check : Value → Checked α}
  {entries inner alone : List (Value × Value)} {own : Option Value}

/-- With another entry in front of its own, a field is what that entry makes of it alone. -/
theorem field_of_over (file : field key fallback check inner = .fits a)
    (sole : field key fallback check alone = .fits b) (there : Value.entry? key alone = own)
    (here : Value.entry? key entries = own.or (Value.entry? key inner)) :
    field key fallback check entries = .fits (if own.isSome then b else a) := by
  unfold field at *
  cases own with
  | none =>
    rw [here]
    exact file
  | some v =>
    rw [there] at sole
    rw [here]
    exact sole

theorem map_seq_eq_fits_iff {f : α → β → γ} {x : Checked α} {y : Checked β} {c : γ} :
    (f <$> x <*> y) = .fits c ↔ ∃ a b, x = .fits a ∧ y = .fits b ∧ f a b = c := by
  cases x <;> cases y <;> simp [Functor.map, Seq.seq, Checked.map, Checked.seq]

theorem map_seq_seq_eq_fits_iff {f : α → β → γ → δ} {x : Checked α} {y : Checked β}
    {z : Checked γ} {d : δ} : (f <$> x <*> y <*> z) = .fits d ↔
      ∃ a b c, x = .fits a ∧ y = .fits b ∧ z = .fits c ∧ f a b c = d := by
  cases x <;> cases y <;> cases z <;> simp [Functor.map, Seq.seq, Checked.map, Checked.seq]

/-- A section is what its check makes of its contents. -/
theorem field_sectionWith_iff {model : String} {check : List (Value × Value) → Checked α}
    (unset : check [] = .fits fallback) :
    field key fallback (sectionWith model check) entries = .fits a ↔
      ∃ inner, Config.contents? key entries = some inner ∧ check inner = .fits a := by
  unfold field Config.contents?
  rcases Value.entry? key entries with _ | v
  · simp [unset]
  · dsimp only
    rw [within_eq_fits_iff]
    cases v <;> simp [sectionWith, misfit]

end Checked

open Checked (field)

section Sections
variable {entries : List (Value × Value)}

theorem LogSettings.ofTable_eq_fits_iff {c : LogSettings} : ofTable entries = .fits c ↔
    field "level" .warning LogLevel.ofValue entries = .fits c.level ∧
    field "format" .text LogFormat.ofValue entries = .fits c.format := by
  rw [ofTable, Checked.map_seq_eq_fits_iff]
  constructor
  · rintro ⟨_, _, level, format, rfl⟩
    exact ⟨level, format⟩
  · rintro ⟨level, format⟩
    exact ⟨_, _, level, format, rfl⟩

theorem CompileDefaults.ofTable_eq_fits_iff {c : CompileDefaults} : ofTable entries = .fits c ↔
    field "library" Content.libraryName Checked.text entries = .fits c.library ∧
    field "default_tier" (some .level3) tierOfValue entries = .fits c.tier ∧
    field "default_roles" [Content.defaultRole] Checked.roles entries = .fits c.roles := by
  rw [ofTable, Checked.map_seq_seq_eq_fits_iff]
  constructor
  · rintro ⟨_, _, _, library, tier, roles, rfl⟩
    exact ⟨library, tier, roles⟩
  · rintro ⟨library, tier, roles⟩
    exact ⟨_, _, _, library, tier, roles, rfl⟩

namespace Config

/-- What a table says in its three sections. -/
structure Reads (entries : List (Value × Value)) (c : Config) : Prop where
  logging : ∃ inner, contents? "logging" entries = some inner ∧
    LogSettings.ofTable inner = .fits c.logging
  compile : ∃ inner, contents? "compile" entries = some inner ∧
    CompileDefaults.ofTable inner = .fits c.compile
  platform : ∃ inner, contents? "platform" entries = some inner ∧
    PlatformSettings.ofTable inner = .fits c.platform

theorem ofTable_eq_fits_iff {c : Config} : ofTable entries = .fits c ↔ Reads entries c := by
  have logging {a} : field "logging" {} LogSettings.ofValue entries = .fits a ↔ _ :=
    Checked.field_sectionWith_iff rfl
  have compile {a} : field "compile" {} CompileDefaults.ofValue entries = .fits a ↔ _ :=
    Checked.field_sectionWith_iff rfl
  have platform {a} : field "platform" {} PlatformSettings.ofValue entries = .fits a ↔ _ :=
    Checked.field_sectionWith_iff rfl
  rw [ofTable, Checked.map_seq_seq_eq_fits_iff]
  constructor
  · rintro ⟨_, _, _, first, second, third, rfl⟩
    exact ⟨logging.mp first, compile.mp second, platform.mp third⟩
  · rintro ⟨first, second, third⟩
    exact ⟨_, _, _, logging.mpr first, compile.mpr second, platform.mpr third, rfl⟩

theorem ofEnvironment_eq_ok_iff {env : Environment} {c : Config} :
    ofEnvironment env entries = .ok c ↔ ∃ out, env.overlay entries = .ok out ∧ Reads out c := by
  simp only [← ofTable_eq_fits_iff, ofEnvironment]
  cases env.overlay entries with
  | error fault => simp
  | ok out => cases fits : ofTable out <;> simp [fits]

end Config
end Sections

namespace Override
variable {group key : String} {os : List Override} {env : Environment}

/-- A variable with the section and the key of its setting, and how it is read. -/
abbrev Row := String × String × String × (String → Except OverlayFault Value)

variable {row : Row} {rows : List Row}

/-- Where the setting of a variable stands. -/
def Row.place (row : Row) : String × String := (row.2.1, row.2.2.1)

/-- The setting that a variable gives, if it is set. -/
def ofRow (env : Environment) (row : Row) : Option Override :=
  (env.value? row.1).map fun s => ⟨row.2.1, row.2.2.1, row.2.2.2 s⟩

theorem ofEnvironment_eq (env : Environment) : ofEnvironment env = known.filterMap (ofRow env) :=
  rfl

theorem latest_eq_none (others : ∀ o ∈ os, (o.group, o.key) ≠ (group, key)) :
    latest group key os = none := by
  induction os with
  | nil => rfl
  | cons o rest ih =>
    obtain ⟨first, behind⟩ := List.forall_mem_cons.mp others
    have elsewhere : ¬(o.group = group ∧ o.key = key) := fun same =>
      first (Prod.ext same.1 same.2)
    rw [latest, ih behind, if_neg elsewhere]
    rfl

theorem latest_ofRows_eq_none (other : (group, key) ∉ rows.map Row.place) :
    latest group key (rows.filterMap (ofRow env)) = none := by
  refine latest_eq_none fun o member same => other ?_
  obtain ⟨row, listed, made⟩ := List.mem_filterMap.mp member
  obtain ⟨s, -, rfl⟩ := Option.map_eq_some_iff.mp made
  exact List.mem_map.mpr ⟨row, listed, same⟩

/-- Where no two variables have one setting, each of them decides its own. By induction on the
variables. -/
theorem latest_ofRows (distinct : (rows.map Row.place).Nodup) (member : row ∈ rows) :
    latest row.2.1 row.2.2.1 (rows.filterMap (ofRow env)) =
      (env.value? row.1).bind fun s => (row.2.2.2 s).toOption := by
  induction rows with
  | nil => contradiction
  | cons first rest ih =>
    obtain ⟨apart, distinct⟩ := List.nodup_cons.mp distinct
    rcases List.mem_cons.mp member with rfl | behind
    · have later : latest row.2.1 row.2.2.1 (rest.filterMap (ofRow env)) = none :=
        latest_ofRows_eq_none apart
      rw [List.filterMap_cons, ofRow]
      cases env.value? row.1 with
      | none => exact later
      | some s =>
        dsimp only [Option.map_some]
        rw [latest, later, if_pos ⟨rfl, rfl⟩]
        rfl
    · have elsewhere : ¬(first.2.1 = row.2.1 ∧ first.2.2.1 = row.2.2.1) := fun same =>
        apart (List.mem_map.mpr ⟨row, behind, Prod.ext same.1.symm same.2.symm⟩)
      rw [← ih distinct behind, List.filterMap_cons, ofRow]
      cases env.value? first.1 with
      | none => rfl
      | some s =>
        dsimp only [Option.map_some]
        rw [latest, if_neg elsewhere, Option.or_none]

/-- A variable that can be read gives its setting a value just if it is set. -/
theorem isSome_latest (readable : ∀ o ∈ ofEnvironment env, ∃ v, o.value = .ok v)
    (member : row ∈ known) :
    (latest row.2.1 row.2.2.1 (ofEnvironment env)).isSome = (env.value? row.1).isSome := by
  rw [ofEnvironment_eq, latest_ofRows (by decide) member]
  cases given : env.value? row.1 with
  | none => rfl
  | some s =>
    obtain ⟨v, read⟩ : ∃ v, row.2.2.2 s = .ok v :=
      forall_ofEnvironment.mp readable row member s given
    rw [Option.bind_some, read]
    rfl

end Override

/-- One of two values, by whether a variable is set. -/
def Environment.prefer {α : Type} (env : Environment) (name : String) (given kept : α) : α :=
  if (env.value? name).isSome then given else kept

namespace Config
open Override (latest known Row)
variable {env : Environment} {d : Disk} {file sole : Config}
  {entries inner alone out : List (Value × Value)}

/-- The configuration of a file with the settings that the environment has a variable for. -/
def overlaid (env : Environment) (file sole : Config) : Config where
  logging :=
    { level := env.prefer "SBPROFILE_LOG_LEVEL" sole.logging.level file.logging.level
      format := env.prefer "SBPROFILE_LOG_FORMAT" sole.logging.format file.logging.format }
  compile :=
    { library := file.compile.library
      tier := env.prefer "SBPROFILE_DEFAULT_TIER" sole.compile.tier file.compile.tier
      roles := env.prefer "SBPROFILE_DEFAULT_ROLES" sole.compile.roles file.compile.roles }
  platform := file.platform

/-- A section in the table of the file, in the one of the environment alone, and in the one of
both. -/
structure Laid (env : Environment) (group : String)
    (inner alone both : List (Value × Value)) : Prop where
  alone : ∀ key, Value.entry? key alone = latest group key (Override.ofEnvironment env)
  both : ∀ key, Value.entry? key both =
    (latest group key (Override.ofEnvironment env)).or (Value.entry? key inner)

theorem exists_laid {group : String} {soleOut out : List (Value × Value)}
    (sole : env.overlay [] = .ok soleOut) (laid : env.overlay entries = .ok out)
    (had : contents? group entries = some inner)
    (given : contents? group soleOut = some alone) :
    ∃ both, contents? group out = some both ∧ Laid env group inner alone both := by
  obtain ⟨only, there, each⟩ := Override.contents?_of_foldlM sole (contents?_nil group)
  obtain ⟨both, here, all⟩ := Override.contents?_of_foldlM laid had
  obtain rfl := Option.some.inj (there.symm.trans given)
  exact ⟨both, here, fun key => (each key).trans (Option.or_none ..), all⟩

section Settings
variable {α : Type} {key group : String} {fallback a b : α} {check : Value → Checked α}
  {both : List (Value × Value)}

theorem Laid.field_of_known {row : Row} (laid : Laid env row.2.1 inner alone both)
    (readable : ∀ o ∈ Override.ofEnvironment env, ∃ v, o.value = .ok v) (member : row ∈ known)
    (file : field row.2.2.1 fallback check inner = .fits a)
    (sole : field row.2.2.1 fallback check alone = .fits b) :
    field row.2.2.1 fallback check both = .fits (env.prefer row.1 b a) := by
  rw [Environment.prefer, ← Override.isSome_latest readable member]
  exact Checked.field_of_over file sole (laid.alone _) (laid.both _)

/-- A setting without a variable is that of the file. -/
theorem Laid.entry?_of_unknown (laid : Laid env group inner alone both)
    (unknown : (group, key) ∉ known.map Row.place) :
    Value.entry? key both = Value.entry? key inner := by
  rw [laid.both, Override.ofEnvironment_eq, Override.latest_ofRows_eq_none unknown, Option.none_or]

end Settings

section Sections
variable {group : String} {both : List (Value × Value)}

theorem Laid.logging {a b : LogSettings} (laid : Laid env "logging" inner alone both)
    (readable : ∀ o ∈ Override.ofEnvironment env, ∃ v, o.value = .ok v)
    (file : LogSettings.ofTable inner = .fits a) (sole : LogSettings.ofTable alone = .fits b) :
    LogSettings.ofTable both = .fits
      { level := env.prefer "SBPROFILE_LOG_LEVEL" b.level a.level
        format := env.prefer "SBPROFILE_LOG_FORMAT" b.format a.format } := by
  rw [LogSettings.ofTable_eq_fits_iff] at *
  have level : known[0] ∈ known := List.getElem_mem _
  have format : known[1] ∈ known := List.getElem_mem _
  exact ⟨laid.field_of_known readable level file.1 sole.1,
    laid.field_of_known readable format file.2 sole.2⟩

theorem Laid.compile {a b : CompileDefaults} (laid : Laid env "compile" inner alone both)
    (readable : ∀ o ∈ Override.ofEnvironment env, ∃ v, o.value = .ok v)
    (file : CompileDefaults.ofTable inner = .fits a)
    (sole : CompileDefaults.ofTable alone = .fits b) :
    CompileDefaults.ofTable both = .fits
      { library := a.library
        tier := env.prefer "SBPROFILE_DEFAULT_TIER" b.tier a.tier
        roles := env.prefer "SBPROFILE_DEFAULT_ROLES" b.roles a.roles } := by
  rw [CompileDefaults.ofTable_eq_fits_iff] at *
  have tier : known[2] ∈ known := List.getElem_mem _
  have roles : known[3] ∈ known := List.getElem_mem _
  refine ⟨?_, laid.field_of_known readable tier file.2.1 sole.2.1,
    laid.field_of_known readable roles file.2.2 sole.2.2⟩
  rw [field, laid.entry?_of_unknown (by decide)]
  exact file.1

theorem Laid.platform (laid : Laid env "platform" inner alone both) :
    PlatformSettings.ofTable both = PlatformSettings.ofTable inner := by
  unfold PlatformSettings.ofTable field
  rw [laid.entry?_of_unknown (by decide), laid.entry?_of_unknown (by decide),
    laid.entry?_of_unknown (by decide)]

end Sections

/-- The variables can be laid over a table that is a configuration as it is, if they can be laid
over nothing. -/
theorem exists_overlay (read : Reads entries file) (sole : env.overlay [] = .ok alone) :
    ∃ out, env.overlay entries = .ok out := by
  have groups : ∀ row ∈ known, row.2.1 = "logging" ∨ row.2.1 = "compile" := by decide
  have each := Override.forall_ofEnvironment.mp (Override.exists_foldlM_apply.mp ⟨_, sole⟩)
  refine Override.exists_foldlM_apply.mpr (Override.forall_ofEnvironment.mpr ?_)
  intro row member s given
  refine ⟨(each row member s given).1, ?_⟩
  rcases groups row member with same | same
  · obtain ⟨inner, had, -⟩ := read.logging
    simp only [same, had, Option.isSome_some]
  · obtain ⟨inner, had, -⟩ := read.compile
    simp only [same, had, Option.isSome_some]

/-- A table and the environment together, from what each of them is alone. -/
theorem reads_overlaid (read : Reads entries file) (aloneLaid : env.overlay [] = .ok alone)
    (aloneRead : Reads alone sole) (laid : env.overlay entries = .ok out) :
    Reads out (overlaid env file sole) := by
  have readable : ∀ o ∈ Override.ofEnvironment env, ∃ v, o.value = .ok v :=
    fun o member => (Override.exists_foldlM_apply.mp ⟨_, aloneLaid⟩ o member).1
  constructor
  · obtain ⟨inner, had, fits⟩ := read.logging
    obtain ⟨own, given, suits⟩ := aloneRead.logging
    obtain ⟨both, there, shape⟩ := exists_laid aloneLaid laid had given
    exact ⟨both, there, shape.logging readable fits suits⟩
  · obtain ⟨inner, had, fits⟩ := read.compile
    obtain ⟨own, given, suits⟩ := aloneRead.compile
    obtain ⟨both, there, shape⟩ := exists_laid aloneLaid laid had given
    exact ⟨both, there, shape.compile readable fits suits⟩
  · obtain ⟨inner, had, fits⟩ := read.platform
    obtain ⟨own, given, -⟩ := aloneRead.platform
    obtain ⟨both, there, shape⟩ := exists_laid aloneLaid laid had given
    exact ⟨both, there, shape.platform.trans fits⟩

/-- If a file loads without variables, and the variables load without a file, then both load
together. A setting whose variable is set is that of the variables alone, and every other one is
that of the file. -/
theorem load_overlaid {quiet : Environment} {d' d'' : Disk} {named named' named'' : Option Path}
    (silent : Silent quiet) (given : source d quiet named = .ok entries)
    (again : source d' env named' = .ok entries) (empty : source d'' env named'' = .ok [])
    (fromFile : load d quiet named = .ok file) (fromVariables : load d'' env named'' = .ok sole) :
    load d' env named' = .ok (overlaid env file sole) := by
  rw [load, given, Outcome.ok_bind, ofEnvironment_eq_ok_iff] at fromFile
  rw [load, empty, Outcome.ok_bind, ofEnvironment_eq_ok_iff] at fromVariables
  obtain ⟨_, same, read⟩ := fromFile
  obtain rfl := Except.ok.inj ((overlay_of_silent silent entries).symm.trans same)
  obtain ⟨alone, aloneLaid, aloneRead⟩ := fromVariables
  obtain ⟨out, laid⟩ := exists_overlay read aloneLaid
  rw [load, again, Outcome.ok_bind, ofEnvironment_eq_ok_iff]
  exact ⟨out, laid, reads_overlaid read aloneLaid aloneRead laid⟩

theorem source_of_holds {p : Path} (there : d.holds p.toText = true) (env : Environment) :
    source d env (some p) = readFile d p.toText := by
  rw [source]
  exact if_pos there

/-- A file with something in each section. -/
def ownText : String :=
  "[logging]\nlevel = \"error\"\nformat = \"json\"\n[compile]\nlibrary = \"own\"\n" ++
  "[platform]\nmin_version = \"11.0\"\n"

def ownTable : List (Value × Value) :=
  [ (.text "logging", .table [(.text "level", .text "error"), (.text "format", .text "json")]),
    (.text "compile", .table [(.text "library", .text "own")]),
    (.text "platform", .table [(.text "min_version", .text "11.0")]) ]

/-- A level in small letters, no format, no tier as zero, and two roles. -/
theorem load_overlaid_ownText :
    let own := diskWith "c.toml" ownText
    let path : Option Path := some ⟨"", ["c.toml"]⟩
    let env : Environment := [("SBPROFILE_LOG_LEVEL", "debug"), ("SBPROFILE_LOG_FORMAT", ""),
      ("SBPROFILE_DEFAULT_TIER", "0"), ("SBPROFILE_DEFAULT_ROLES", "gpu, audio")]
    let file : Config :=
      { logging := ⟨.error, .json⟩
        compile := { library := "own" }
        platform := { least := ⟨"11.0", [11, 0], by rfl⟩ } }
    let sole : Config :=
      { logging := ⟨.debug, .text⟩
        compile := ⟨Content.libraryName, none, ["gpu", "audio"]⟩ }
    Silent [] ∧ source own [] path = .ok ownTable ∧ source own env path = .ok ownTable ∧
    source bareDisk env none = .ok [] ∧ load own [] path = .ok file ∧
    load bareDisk env none = .ok sole ∧
    load own env path = .ok
      { logging := ⟨.debug, .json⟩
        compile := ⟨"own", none, ["gpu", "audio"]⟩
        platform := { least := ⟨"11.0", [11, 0], by rfl⟩ } } := by
  intro own path env file sole
  have silent : Silent [] := by
    unfold Silent
    decide
  have loaded : Toml.load ownText = .ok ownTable := Outcome.eq_ok_of_toOption (by decide +kernel)
  have read : readFile own "c.toml" = .ok ownTable := readFile_of_find rfl loaded
  have given : source own [] path = .ok ownTable := (source_of_holds rfl []).trans read
  have again : source own env path = .ok ownTable := (source_of_holds rfl env).trans read
  have empty : source bareDisk env none = .ok [] := Outcome.eq_ok_of_toOption (by decide +kernel)
  have fromFile : load own [] path = .ok file := by
    rw [load, given]
    exact Outcome.eq_ok_of_toOption (by decide +kernel)
  have fromVariables : load bareDisk env none = .ok sole := by
    rw [load, empty]
    exact Outcome.eq_ok_of_toOption (by decide +kernel)
  exact ⟨silent, given, again, empty, fromFile, fromVariables,
    load_overlaid silent given again empty fromFile fromVariables⟩

end Config
end SandboxProfile
