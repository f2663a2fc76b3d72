import SandboxProfile.Proofs.Config.Atomic
import SandboxProfile.Proofs.Config.Overlay
import SandboxProfile.Proofs.Text.Numeral

/-! Which faults leave the loading of a configuration. Some of them are said to be of the
configuration; the others come from a step that nothing guards. In front of a file with a valid text
these are a number in it that is too long, and an environment that cannot be laid over its table. -/
namespace SandboxProfile
open Files (Disk Path)

/-- Whether a fault is said to be one of the configuration. -/
def ConfigFault.isOwn : ConfigFault → Bool
  | .missing _ | .unreadable _ | .misfit _ => true
  | .notText _ | .tooManyDigits _ | .overlay _ => false

namespace Override
variable {s : String}

theorem exists_tierValue_iff (given : s ≠ "") : (∃ v, tierValue s = .ok v) ↔
    (s.toList.all Text.isDigit = true → Text.IsNumeral s) := by
  unfold tierValue
  by_cases digits : s.toList.all Text.isDigit = true
  · rw [if_pos digits, ← Text.exists_readInteger_iff given digits]
    split
    · next i read => simp [digits, read]
    · next read => simp [digits, read]
    · next n read => simp [digits, read]
  · simp [digits]

end Override

namespace Environment
variable {env : Environment} {entries : List (Value × Value)}

theorem ne_empty_of_value? {name s : String} (given : env.value? name = some s) : s ≠ "" := by
  simpa using (Option.filter_eq_some_iff.mp given).2

/-- What an environment needs of a table to be laid over it: the section of each variable that is
set is a table or missing. A tier of digits has to be a numeral. -/
structure FitsOver (env : Environment) (entries : List (Value × Value)) : Prop where
  tier : ∀ s, env.value? "SBPROFILE_DEFAULT_TIER" = some s →
    s.toList.all Text.isDigit = true → Text.IsNumeral s
  logging : (env.value? "SBPROFILE_LOG_LEVEL").isSome ∨ (env.value? "SBPROFILE_LOG_FORMAT").isSome →
    (Config.contents? "logging" entries).isSome
  compile : (env.value? "SBPROFILE_DEFAULT_TIER").isSome ∨
    (env.value? "SBPROFILE_DEFAULT_ROLES").isSome → (Config.contents? "compile" entries).isSome

theorem exists_overlay_iff : (∃ out, env.overlay entries = .ok out) ↔ env.FitsOver entries := by
  unfold overlay
  rw [Override.exists_foldlM_apply, Override.forall_ofEnvironment]
  simp only [Override.known, List.forall_mem_cons, List.not_mem_nil, false_implies, implies_true,
    and_true]
  constructor
  · rintro ⟨level, format, tier, roles⟩
    constructor
    · exact fun s given => (Override.exists_tierValue_iff (ne_empty_of_value? given)).mp
        (tier s given).1
    · rintro (set | set) <;> obtain ⟨s, given⟩ := Option.isSome_iff_exists.mp set
      · exact (level s given).2
      · exact (format s given).2
    · rintro (set | set) <;> obtain ⟨s, given⟩ := Option.isSome_iff_exists.mp set
      · exact (tier s given).2
      · exact (roles s given).2
  · rintro ⟨tier, logging, compile⟩
    have isSome {name s} (given : env.value? name = some s) : (env.value? name).isSome = true := by
      rw [given]
      rfl
    have readable {s} (given : env.value? "SBPROFILE_DEFAULT_TIER" = some s) :=
      (Override.exists_tierValue_iff (ne_empty_of_value? given)).mpr (tier s given)
    exact ⟨fun s given => ⟨⟨_, rfl⟩, logging (.inl (isSome given))⟩,
      fun s given => ⟨⟨_, rfl⟩, logging (.inr (isSome given))⟩,
      fun s given => ⟨readable given, compile (.inl (isSome given))⟩,
      fun s given => ⟨⟨_, rfl⟩, compile (.inr (isSome given))⟩⟩

end Environment

namespace Config
variable {d : Disk} {env : Environment} {named : Option Path} {text : String}
  {entries : List (Value × Value)}

/-- The text of the file that is meant is one of the format, if its numbers may be of any
length. -/
structure Valid (d : Disk) (env : Environment) (named : Option Path) (text : String) : Prop where
  read : ∃ bytes, d.read (named.getD env.configPath).toText = .ok bytes ∧
    Text.decodeUtf8 bytes = .ok text
  wellFormed : Toml.load text ≠ .error .malformed

theorem holds_of_read {path : String} {bytes : List UInt8} (read : d.read path = .ok bytes) :
    d.holds path = true := by
  unfold Disk.read at read
  unfold Disk.holds
  split at read
  · contradiction
  · contradiction
  · next found => rw [found]

/-- How a fault in a text is told of its file. -/
def faultOf (path : String) : Toml.Fault → ConfigFault
  | .malformed => .unreadable path
  | .tooManyDigits digits => .tooManyDigits digits

theorem source_of_valid (valid : Valid d env named text) : source d env named =
    (Toml.load text).mapError (faultOf (named.getD env.configPath).toText) := by
  obtain ⟨bytes, read, decoded⟩ := valid.read
  rw [source, if_pos (holds_of_read read), readFile, read]
  dsimp only
  rw [decoded]
  dsimp only
  cases Toml.load text with
  | ok entries => rfl
  | error fault => cases fault <;> rfl

/-- From a table on, a fault is of the configuration unless the table cannot be overlaid. -/
theorem ofEnvironment_own_iff :
    (∀ fault, ofEnvironment env entries = .error fault → fault.isOwn = true) ↔
      env.FitsOver entries := by
  rw [← Environment.exists_overlay_iff]
  unfold ofEnvironment
  cases env.overlay entries with
  | error fault => simp [ConfigFault.isOwn]
  | ok out =>
    dsimp only
    cases ofTable out with
    | fits c => simp
    | misfits complaints => simp [ConfigFault.isOwn]

/-- In front of a valid text, loading ends with a configuration or with a fault that is said to be
of the configuration just if no number in the text is too long and the environment can be laid over
the table of the text. Otherwise another fault gets out. -/
theorem load_own_iff (valid : Valid d env named text) :
    (∀ fault, load d env named = .error fault → fault.isOwn = true) ↔
      ∃ entries, Toml.load text = .ok entries ∧ env.FitsOver entries := by
  rw [load, source_of_valid valid]
  cases loaded : Toml.load text with
  | ok entries => simp [ofEnvironment_own_iff]
  | error fault =>
    cases fault with
    | malformed => exact absurd loaded valid.wellFormed
    | tooManyDigits digits => simp [faultOf, ConfigFault.isOwn]

/-- A number where a section should be, in the one file there is. -/
def numberForSection : Disk := diskWith "c.toml" "logging = 3\n"

theorem read_numberForSection :
    numberForSection.read "c.toml" = .ok "logging = 3\n".toUTF8.toList :=
  Outcome.eq_ok_of_toOption (by decide +kernel)

def numberTable : List (Value × Value) := [(.text "logging", .int 3)]

theorem load_numberTable : Toml.load "logging = 3\n" = .ok numberTable :=
  Outcome.eq_ok_of_toOption (by decide +kernel)

theorem valid_numberForSection (env : Environment) :
    Valid numberForSection env (some ⟨"", ["c.toml"]⟩) "logging = 3\n" where
  read := ⟨_, read_numberForSection, Text.decodeUtf8_toUTF8 _⟩
  wellFormed := by rw [load_numberTable]; exact nofun

theorem load_numberForSection (env : Environment) :
    load numberForSection env (some ⟨"", ["c.toml"]⟩) = ofEnvironment env numberTable := by
  rw [load, source_of_valid (valid_numberForSection env), load_numberTable, Outcome.mapError_ok,
    Outcome.ok_bind]

/-- With a variable for another section the number is complained about. With one for its own section
the fault of the overlay gets out, as it does for a tier with a digit that has no place in a
numeral. -/
theorem load_own_iff_numberForSection :
    let named : Option Path := some ⟨"", ["c.toml"]⟩
    let own (env : Environment) : Prop :=
      ∀ fault, load numberForSection env named = .error fault → fault.isOwn = true
    let entitled : Environment := [("SBPROFILE_DEFAULT_TIER", "2"), ("SBPROFILE_LOG_LEVEL", "")]
    let levelled : Environment := [("SBPROFILE_LOG_LEVEL", "DEBUG")]
    let squared : Environment := [("SBPROFILE_DEFAULT_TIER", "²")]
    (own entitled ∧ load numberForSection entitled named =
      .error (.misfit [⟨["logging"], .notSection "LoggingConfig"⟩])) ∧
    (¬own levelled ∧ load numberForSection levelled named = .error (.overlay .notSection)) ∧
    (¬own squared ∧
      load numberForSection squared named = .error (.overlay (.notInteger "²"))) := by
  intro named own entitled levelled squared
  have decides (env : Environment) : own env ↔ env.FitsOver numberTable := by
    refine (load_own_iff (valid_numberForSection env)).trans ?_
    rw [load_numberTable]
    exact ⟨fun ⟨_, same, fits⟩ => Except.ok.inj same ▸ fits, fun fits => ⟨_, rfl, fits⟩⟩
  simp only [decides]
  refine ⟨⟨⟨?_, ?_, ?_⟩, (load_numberForSection _).trans rfl⟩,
    ⟨fun fits => ?_, (load_numberForSection _).trans rfl⟩,
    ⟨fun fits => ?_, (load_numberForSection _).trans rfl⟩⟩
  · intro s given digits
    obtain rfl : "2" = s := Option.some.inj given
    exact ⟨List.all_eq_true.mp (by decide), by decide⟩
  · decide
  · decide
  · exact absurd (fits.logging (.inl rfl)) (by decide)
  · have numeral := fits.tier "²" rfl (by decide)
    exact absurd (numeral.1 '²' (by decide)) (by decide)

/-- So there are variables and valid files with which another fault gets out. -/
theorem not_forall_isOwn : ¬∀ (d : Disk) (env : Environment) (named : Option Path) (text : String),
    Valid d env named text → ∀ fault, load d env named = .error fault → fault.isOwn = true := by
  intro all
  have fault : load numberForSection [("SBPROFILE_LOG_LEVEL", "DEBUG")] (some ⟨"", ["c.toml"]⟩) =
      .error (.overlay .notSection) := load_numberForSection _
  exact absurd (all _ _ _ _ (valid_numberForSection _) _ fault) (by decide)

end Config
end SandboxProfile
