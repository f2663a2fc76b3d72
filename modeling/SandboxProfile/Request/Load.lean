import SandboxProfile.Config.Load
import SandboxProfile.Request.Read

/-! Loading a request from a parameter file. A tilde in front of a path stands for the
home folder. -/
namespace SandboxProfile
open Files (Disk Path)

inductive RequestFileFault where
  | missing (path : String)
  | unreadable (path : String) (fault : Files.Fault)
  | notText (fault : Text.Utf8Fault)
  /-- A path starts from the home of somebody who is not known. -/
  | noHome
  | content (fault : RequestFault)
  deriving Repr, DecidableEq

def RequestFileFault.message : RequestFileFault → String
  | .missing path => "Parameter file not found: " ++ path
  | .unreadable path fault => s!"Cannot read parameter file {path}: {fault.message}"
  | .notText fault => fault.message
  | .noHome => "Could not determine home directory."
  | .content fault => fault.message

namespace Request

def expandHome (env : Environment) (p : Path) : Except RequestFileFault Path :=
  match p.isAbsolute, p.parts with
  | false, "~" :: rest => .ok (env.homeFolder.under ⟨"", rest⟩)
  | false, first :: _ => if first.toList.head? = some '~' then .error .noHome else .ok p
  | _, _ => .ok p

def load (d : Disk) (env : Environment) (path : String) : Except RequestFileFault Request := do
  let p := (← expandHome env (Path.ofText path)).toText
  if !d.holds p then throw (.missing p)
  let bytes ← (d.read p).mapError (.unreadable p)
  let text ← (Text.decodeUtf8 bytes).mapError .notText
  (ofText p text).mapError .content

end Request
end SandboxProfile
