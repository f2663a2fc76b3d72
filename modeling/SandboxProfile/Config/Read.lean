import SandboxProfile.Config.Basic
import SandboxProfile.Text.Case
import SandboxProfile.Validation.Fields

/-! Reading the configuration from a table. What is missing has its default, and what is
not known is passed over. -/
namespace SandboxProfile
open Checked (field misfit)

/-- A check of a text that has a narrower form. -/
def Checked.textWith (check : String → Except Misfit α) (v : Value) : Checked α :=
  .ofExcept (Lenient.text v >>= check)

/-- A check of a section, known to messages by the name of its model. -/
def Checked.sectionWith (model : String) (check : List (Value × Value) → Checked α) (v : Value) :
    Checked α :=
  match v with
  | .table entries => check entries
  | _ => misfit (.notSection model)

/-- Levels may be written in either case of letters. -/
def LogLevel.ofValue : Value → Checked LogLevel :=
  Checked.textWith fun s => (ofName? (Text.upper s)).elim (.error .unknownLevel) .ok

def LogFormat.ofValue : Value → Checked LogFormat :=
  Checked.textWith fun s => (ofName? s).elim (.error .unknownFormat) .ok

namespace LogSettings

def ofTable (entries : List (Value × Value)) : Checked LogSettings :=
  LogSettings.mk <$> field "level" .warning LogLevel.ofValue entries
    <*> field "format" .text LogFormat.ofValue entries

def ofValue : Value → Checked LogSettings := Checked.sectionWith "LoggingConfig" ofTable

end LogSettings

namespace CompileDefaults

/-- Files of this format have no value for nothing, so zero and one word stand for it. -/
def selectsNoTier : Value → Bool
  | .text s => s == "0" || Text.lower s == "none"
  | v => v.numeral? == some 0

def tierOfValue (v : Value) : Checked (Option Tier) :=
  if selectsNoTier v then .fits none else Checked.tier v

def ofTable (entries : List (Value × Value)) : Checked CompileDefaults :=
  CompileDefaults.mk <$> field "library" Content.libraryName Checked.text entries
    <*> field "default_tier" (some .level3) tierOfValue entries
    <*> field "default_roles" [Content.defaultRole] Checked.roles entries

def ofValue : Value → Checked CompileDefaults := Checked.sectionWith "CompileConfig" ofTable

end CompileDefaults

def OSFamily.ofValue (v : Value) : Checked OSFamily :=
  match (Lenient.text v).toOption.bind ofName? with
  | some f => .fits f
  | none => misfit .notFamily

def VersionText.ofValue : Value → Checked VersionText :=
  Checked.textWith fun s => (ofText s).mapError .version

namespace PlatformSettings

def greatestOfValue : Value → Checked (Option VersionText)
  | .null => .fits none
  | v => some <$> VersionText.ofValue v

def ofTable (entries : List (Value × Value)) : Checked PlatformSettings :=
  PlatformSettings.mk <$> field "family" .macos OSFamily.ofValue entries
    <*> field "min_version" .oldest VersionText.ofValue entries
    <*> field "max_version" none greatestOfValue entries

def ofValue : Value → Checked PlatformSettings := Checked.sectionWith "PlatformConfig" ofTable

end PlatformSettings

def Config.ofTable (entries : List (Value × Value)) : Checked Config :=
  Config.mk <$> field "logging" {} LogSettings.ofValue entries
    <*> field "compile" {} CompileDefaults.ofValue entries
    <*> field "platform" {} PlatformSettings.ofValue entries

end SandboxProfile
