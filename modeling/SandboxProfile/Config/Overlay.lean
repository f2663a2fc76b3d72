import SandboxProfile.Table
import SandboxProfile.Text.Integer
import SandboxProfile.Value

/-! Environment variables that overlay the configuration. An empty variable counts as not
set. -/
namespace SandboxProfile

/-- Variables by name. -/
abbrev Environment := List (String × String)

namespace Environment

/-- A variable that is set to something. -/
def value? (env : Environment) (name : String) : Option String :=
  (env.lookup name).filter (· ≠ "")

end Environment

/-- Why a variable cannot overlay a table. -/
inductive OverlayFault where
  /-- A tier consists of digits, but of some that have no place in a numeral. -/
  | notInteger (text : String)
  | tooManyDigits (digits : Nat)
  /-- What stands in the place of a section cannot be added to. -/
  | notSection
  deriving Repr, DecidableEq

def OverlayFault.message : OverlayFault → String
  | .notInteger text => s!"invalid literal for int() with base 10: {Text.quoted text}"
  | .tooManyDigits digits => Text.tooManyDigitsMessage digits
  | .notSection => "a section of the configuration is not a table"

/-- A setting that the environment gives. -/
structure Override where
  group : String
  key : String
  value : Except OverlayFault Value

namespace Override

/-- A text of digits counts as an integer. -/
def tierValue (s : String) : Except OverlayFault Value :=
  if s.toList.all Text.isDigit then
    match Text.readInteger s with
    | .ok i => .ok (.int i)
    | .error .notInteger => .error (.notInteger s)
    | .error (.tooManyDigits digits) => .error (.tooManyDigits digits)
  else .ok (.text s)

def plain (s : String) : Except OverlayFault Value := .ok (.text s)

/-- The variables, and the settings that they give. -/
def known : List (String × String × String × (String → Except OverlayFault Value)) :=
  [ ("SBPROFILE_LOG_LEVEL", "logging", "level", plain),
    ("SBPROFILE_LOG_FORMAT", "logging", "format", plain),
    ("SBPROFILE_DEFAULT_TIER", "compile", "default_tier", tierValue),
    ("SBPROFILE_DEFAULT_ROLES", "compile", "default_roles", plain) ]

def ofEnvironment (env : Environment) : List Override :=
  known.filterMap fun (name, group, key, read) =>
    (env.value? name).map fun s => ⟨group, key, read s⟩

/-- A table with one more setting in one of its sections. -/
def apply (entries : List (Value × Value)) (o : Override) :
    Except OverlayFault (List (Value × Value)) := do
  let v ← o.value
  match Value.entry? o.group entries with
  | none => pure (Table.insert (.text o.group) (.table [(.text o.key, v)]) entries)
  | some (.table inner) =>
    pure (Table.insert (.text o.group) (.table (Table.insert (.text o.key) v inner)) entries)
  | some _ => throw .notSection

end Override

/-- A table with the settings of the environment in the place of its own. -/
def Environment.overlay (env : Environment) (entries : List (Value × Value)) :
    Except OverlayFault (List (Value × Value)) :=
  (Override.ofEnvironment env).foldlM Override.apply entries

end SandboxProfile
