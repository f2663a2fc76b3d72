import SandboxProfile.Config.Read

/-! Configurations and tables. A configuration is read back from the table that it is written
as, part by part: levels and formats by their names, no tier as zero, and versions in the form
in which they were given. -/
namespace SandboxProfile

namespace Checked
variable {α : Type} {key : String} {fallback : α} {check : Value → Checked α}
  {entries : List (Value × Value)}

theorem field_of_missing (missing : Value.entry? key entries = none) :
    field key fallback check entries = .fits fallback := by
  rw [field, missing]

theorem field_of_fits {v : Value} {a : α} (given : Value.entry? key entries = some v)
    (fits : check v = .fits a) : field key fallback check entries = .fits a := by
  rw [field, given]
  exact within_eq_fits_iff.mpr fits

theorem textWith_text (read : String → Except Misfit α) (s : String) :
    textWith read (.text s) = .ofExcept (read s) := rfl

/-- A list of texts is read as these texts, whatever they are. -/
theorem texts_map (texts : List String) : Checked.texts (texts.map .text) = .fits texts := by
  rw [← all_fits, Checked.texts]
  refine congrArg all (List.ext_getElem (by simp) fun i _ _ => ?_)
  simp [text, Lenient.text, ofExcept, within]

end Checked

theorem LogLevel.ofValue_name (level : LogLevel) : ofValue (.text level.name) = .fits level := by
  cases level <;> rfl

theorem LogFormat.ofValue_name (format : LogFormat) :
    ofValue (.text format.name) = .fits format := by
  cases format <;> rfl

theorem OSFamily.ofValue_name (family : OSFamily) :
    ofValue (.text family.name) = .fits family := by
  cases family <;> rfl

namespace VersionText

theorem ofText_text (v : VersionText) : ofText v.text = .ok v := by
  unfold ofText
  split
  · next version parsed =>
    obtain rfl := Except.ok.inj (parsed.symm.trans v.parse_text)
    rfl
  · next fault parsed =>
    rw [v.parse_text] at parsed
    contradiction

theorem ofValue_text (v : VersionText) : ofValue (.text v.text) = .fits v := by
  rw [ofValue, Checked.textWith_text, ofText_text]
  rfl

end VersionText

/-! ### Sections -/

/-- The entries of a section with texts as their keys. -/
def Config.entries (settings : List (String × Value)) : List (Value × Value) :=
  settings.map fun (key, v) => (.text key, v)

/-- What stands in each section of a configuration. -/
def LogSettings.settings (c : LogSettings) : List (String × Value) :=
  [("level", .text c.level.name), ("format", .text c.format.name)]

def CompileDefaults.settings (c : CompileDefaults) : List (String × Value) :=
  let library := ("library", Value.text c.library)
  let roles := ("default_roles", Value.list (c.roles.map .text))
  match c.tier with
  | some t => [library, ("default_tier", .int t.toNat), roles]
  | none => [library, roles, ("default_tier", .int 0)]

def PlatformSettings.settings (c : PlatformSettings) : List (String × Value) :=
  [("family", .text c.family.name), ("min_version", .text c.least.text)] ++
    match c.greatest with
    | some v => [("max_version", .text v.text)]
    | none => []

theorem LogSettings.ofTable_entries (c : LogSettings) : ofTable (Config.entries c.settings) =
    .fits c := by
  rw [ofTable, Checked.field_of_fits rfl (LogLevel.ofValue_name c.level),
    Checked.field_of_fits rfl (LogFormat.ofValue_name c.format)]
  rfl

namespace CompileDefaults

theorem tierOfValue_toNat (t : Tier) : tierOfValue (.int t.toNat) = .fits (some t) := by
  cases t <;> rfl

theorem ofTable_entries (c : CompileDefaults) : ofTable (Config.entries c.settings) = .fits c := by
  obtain ⟨library, tier, roles⟩ := c
  have named : Checked.text (.text library) = .fits library := rfl
  have listed : Checked.roles (.list (roles.map .text)) = .fits roles := Checked.texts_map roles
  cases tier with
  | none =>
    have untiered : tierOfValue (.int 0) = .fits none := rfl
    rw [ofTable, Checked.field_of_fits rfl named, Checked.field_of_fits rfl untiered,
      Checked.field_of_fits rfl listed]
    rfl
  | some t =>
    rw [ofTable, Checked.field_of_fits rfl named, Checked.field_of_fits rfl (tierOfValue_toNat t),
      Checked.field_of_fits rfl listed]
    rfl

end CompileDefaults

namespace PlatformSettings

theorem ofTable_entries (c : PlatformSettings) : ofTable (Config.entries c.settings) = .fits c := by
  obtain ⟨family, least, greatest⟩ := c
  cases greatest with
  | none =>
    rw [ofTable, Checked.field_of_fits rfl (OSFamily.ofValue_name family),
      Checked.field_of_fits rfl least.ofValue_text, Checked.field_of_missing rfl]
    rfl
  | some v =>
    have bounded : greatestOfValue (.text v.text) = .fits (some v) := by
      show some <$> VersionText.ofValue (.text v.text) = _
      rw [v.ofValue_text]
      rfl
    rw [ofTable, Checked.field_of_fits rfl (OSFamily.ofValue_name family),
      Checked.field_of_fits rfl least.ofValue_text, Checked.field_of_fits rfl bounded]
    rfl

end PlatformSettings

/-- The table of a configuration is read as that configuration. -/
theorem Config.ofTable_toTable (c : Config) : ofTable c.toTable = .fits c := by
  rw [ofTable, Checked.field_of_fits rfl c.logging.ofTable_entries,
    Checked.field_of_fits rfl c.compile.ofTable_entries,
    Checked.field_of_fits rfl c.platform.ofTable_entries]
  rfl

end SandboxProfile
