import SandboxProfile.Lock.Scope
import SandboxProfile.Log.Record
import SandboxProfile.Platform.Version
import SandboxProfile.Value

/-! Platforms and the capabilities that follow from them. -/
namespace SandboxProfile

inductive OSFamily where
  | macos
  | linux
  | windows
  deriving Repr, DecidableEq

namespace OSFamily

def all : List OSFamily := [.macos, .linux, .windows]

def name : OSFamily → String
  | .macos => "macos"
  | .linux => "linux"
  | .windows => "windows"

def label : OSFamily → String
  | .macos => "MACOS"
  | .linux => "LINUX"
  | .windows => "WINDOWS"

def ofName? (s : String) : Option OSFamily := all.find? (·.name == s)

end OSFamily

inductive PlatformFault where
  | unknownFamily (text : String)
  | emptyRange (least greatest : Version)
  | invalidVersion (fault : InvalidVersion)
  deriving Repr, DecidableEq

def PlatformFault.message : PlatformFault → String
  | .unknownFamily text => s!"{Text.quoted text} is not a valid OSFamily"
  | .emptyRange least greatest =>
    s!"max_version {greatest.literal} is lower than min_version {least.literal}"
  | .invalidVersion fault => fault.message

/-- A family of systems and a range of its versions. -/
structure Platform where
  family : OSFamily
  least : Version
  greatest : Option Version
  in_order : ∀ g, greatest = some g → g.precedes least = false
  deriving Repr

namespace Platform

def create (family : OSFamily) (least : Version) (greatest : Option Version) :
    Except PlatformFault Platform :=
  match greatest with
  | none => .ok ⟨family, least, none, by simp⟩
  | some g =>
    if h : g.precedes least = true then .error (.emptyRange least g)
    else .ok ⟨family, least, some g, by simpa using h⟩

def ofFamilyName (family : String) (least : Version) (greatest : Option Version) :
    Except PlatformFault Platform :=
  match OSFamily.ofName? family with
  | none => .error (.unknownFamily family)
  | some f => create f least greatest

/-- The platform of a host that names its system. Only one system tells its
version, and an empty version stands for zero. -/
def ofHost (system release : String) : Except PlatformFault Platform :=
  match system with
  | "darwin" => do
    let v ← (Version.parse (if release == "" then "0" else release)).mapError .invalidVersion
    create .macos v (some v)
  | "win32" => create .windows [0] none
  | _ => create .linux [0] none

def literal (p : Platform) : String :=
  s!"PlatformDescriptor(family=<OSFamily.{p.family.label}: {Text.quoted p.family.name}>, " ++
    s!"min_version={p.least.literal}, max_version=" ++
    (match p.greatest with
      | none => "None"
      | some v => v.literal) ++ ")"

private def rangeEnd : Option Version → String
  | none | some [] => "*"
  | some v => v.dotted

/-- The platform in one line; a missing version is a star. -/
def describe (p : Platform) : String :=
  s!"{p.family.name} {rangeEnd (some p.least)}-{rangeEnd p.greatest}"

end Platform

structure Capabilities where
  customSharedLock : Bool
  embedderProvidesTls : Bool
  singleThreadedInvocations : Bool
  wasmModuleName : String
  deriving Repr, DecidableEq

namespace Capabilities

def defaultModule : String := "rlbox"

/-- Shared locks of the system are missing from some versions of one family, so
every version of it gets the lock of this library. -/
def ofPlatform (p : Platform) : Capabilities := ⟨p.family == .macos, true, true, defaultModule⟩

def entries (c : Capabilities) : List (String × Value) :=
  [("custom_shared_lock", .bool c.customSharedLock),
    ("embedder_provides_tls", .bool c.embedderProvidesTls),
    ("single_threaded_invocations", .bool c.singleThreadedInvocations),
    ("wasm_module_name", .text c.wasmModuleName)]

def literal (c : Capabilities) : String :=
  "CapabilitySet(" ++ Text.joinWith ", " (c.entries.map fun (name, v) => name ++ "=" ++ v.literal) ++
    ")"

/-- The lock that the capabilities ask for, free. -/
def newLock (c : Capabilities) : Lock.AnyLock :=
  if c.customSharedLock then .shared (.fresh 0) else .serial ⟨false⟩

def resolvedRecord (p : Platform) : LogRecord :=
  ⟨.debug, "sbprofile.core.capabilities",
    s!"Capabilities for {p.literal}: {(ofPlatform p).literal}"⟩

end Capabilities

/-- A violation that ends the sandboxed runtime. -/
structure Abort where
  reason : String
  deriving Repr, DecidableEq

namespace Abort

def message (a : Abort) : String := s!"RLBox crash: {a.reason}"

def record (a : Abort) : LogRecord := ⟨.critical, "sbprofile.core.capabilities", a.message⟩

end Abort
end SandboxProfile
