import SandboxProfile.Config.Overlay
import SandboxProfile.Config.Read
import SandboxProfile.Files.Disk
import SandboxProfile.Text.Utf8
import SandboxProfile.Toml.Document

/-! Loading the configuration: its file, overlaid with the environment. A file that is
named must be there; elsewhere the defaults will do. -/
namespace SandboxProfile
open Files (Disk Path)

inductive ConfigFault where
  | missing (path : String)
  /-- The file cannot be opened, or its text is malformed. -/
  | unreadable (path : String)
  | notText (fault : Text.Utf8Fault)
  | tooManyDigits (digits : Nat)
  | overlay (fault : OverlayFault)
  | misfit (complaints : List Complaint)
  deriving Repr, DecidableEq

def ConfigFault.message : ConfigFault → String
  | .missing path => "Config file not found: " ++ path
  | .unreadable path => "Cannot read config file " ++ path
  | .notText fault => fault.message
  | .tooManyDigits digits => Text.tooManyDigitsMessage digits
  | .overlay fault => fault.message
  | .misfit _ => "Invalid config"

namespace Environment

def fileVariable : String := "SBPROFILE_CONFIG"

def homeFolder (env : Environment) : Path := Path.ofText ((env.value? "HOME").getD "/")

/-- The file of the configuration where none is named on the way. -/
def configPath (env : Environment) : Path :=
  match env.value? fileVariable with
  | some s => Path.ofText s
  | none => env.homeFolder.under (Path.ofText ".sbprofile/config.toml")

end Environment

namespace Config

/-- The table in a file. -/
def readFile (d : Disk) (path : String) : Except ConfigFault (List (Value × Value)) :=
  match d.read path with
  | .error _ => .error (.unreadable path)
  | .ok bytes =>
    match Text.decodeUtf8 bytes with
    | .error fault => .error (.notText fault)
    | .ok text =>
      match Toml.load text with
      | .ok entries => .ok entries
      | .error .malformed => .error (.unreadable path)
      | .error (.tooManyDigits digits) => .error (.tooManyDigits digits)

/-- The configuration that a table gives in an environment. -/
def ofEnvironment (env : Environment) (entries : List (Value × Value)) :
    Except ConfigFault Config :=
  match env.overlay entries with
  | .error fault => .error (.overlay fault)
  | .ok entries =>
    match ofTable entries with
    | .fits c => .ok c
    | .misfits complaints => .error (.misfit complaints)

/-- The table to start from. A file counts as named even by a variable that is empty. -/
def source (d : Disk) (env : Environment) (named : Option Path) :
    Except ConfigFault (List (Value × Value)) :=
  let path := (named.getD env.configPath).toText
  if d.holds path then readFile d path
  else if named.isSome || (env.lookup Environment.fileVariable).isSome then
    .error (.missing path)
  else .ok []

def load (d : Disk) (env : Environment) (named : Option Path) : Except ConfigFault Config :=
  source d env named >>= ofEnvironment env

end Config
end SandboxProfile
