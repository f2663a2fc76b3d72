import SandboxProfile.Text.Integer
import SandboxProfile.Text.Layout
import SandboxProfile.Text.Quoted

/-! Versions are lists of integers, written with dots between them. -/
namespace SandboxProfile

abbrev Version := List Int

structure InvalidVersion where
  text : String
  deriving Repr, DecidableEq

namespace Version

def components? (s : String) : List String → Except InvalidVersion Version
  | [] => .ok []
  | part :: rest =>
    match Text.readInteger part with
    | .error _ => .error ⟨s⟩
    | .ok i => (components? s rest).map (i :: ·)

/-- Reads a version. Every part between dots must be an integer. -/
def parse (s : String) : Except InvalidVersion Version :=
  components? s (Text.split '.' (Text.trim s))

def dotted (v : Version) : String := Text.joinWith "." (v.map toString)

/-- A version as messages show it. -/
def literal (v : Version) : String :=
  match v with
  | [i] => s!"({i},)"
  | is => "(" ++ Text.joinWith ", " (is.map toString) ++ ")"

/-- Whether a version comes before another one: the first component that differs
decides, and a missing component comes before any. -/
def precedes : Version → Version → Bool
  | _, [] => false
  | [], _ :: _ => true
  | a :: as, b :: bs => a < b || (a == b && precedes as bs)

end Version

def InvalidVersion.message (v : InvalidVersion) : String :=
  s!"Invalid version {Text.quoted v.text}; expected dotted integers"

end SandboxProfile
