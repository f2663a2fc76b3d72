import SandboxProfile.Parameter.Kind

/-! Catalogues of parameters: which names there are, the kind that each must be
bound as, and which must be supplied. -/
namespace SandboxProfile

structure ParameterSpec where
  name : String
  kind : ParamKind
  required : Bool := false
  description : String := ""
  deriving Repr, DecidableEq

namespace ParameterSpec

/-- What a name is bound to when it is not supplied: a toggle is off, every other
kind has no value. -/
def fallback (spec : ParameterSpec) : Value :=
  match spec.kind with
  | .bool => .bool false
  | _ => .null

end ParameterSpec

abbrev Catalogue := List ParameterSpec

def Catalogue.find? (c : Catalogue) (name : String) : Option ParameterSpec :=
  List.find? (·.name == name) c

def versionParameter : String := "MAC_OS_VERSION"

def testingReadPathCount : Nat := 4

def testingReadPath (i : Nat) : String := s!"TESTING_READ_PATH{i}"

/-- The parameters of a content process. -/
def contentParameters : Catalogue :=
  [ { name := versionParameter, kind := .int, required := true,
      description := "macOS version as major*100+minor, e.g. 1013" },
    { name := "HOME_PATH", kind := .path, required := true,
      description := "User home directory" },
    { name := "APP_PATH", kind := .path, required := true,
      description := "Application bundle directory" },
    { name := "SHOULD_LOG", kind := .bool, description := "Log denied operations" },
    { name := "HAS_SANDBOXED_PROFILE", kind := .bool,
      description := "PROFILE_DIR is protected from content processes" },
    { name := "PROFILE_DIR", kind := .optionalPath, description := "Browser profile directory" },
    { name := "HAS_WINDOW_SERVER", kind := .bool,
      description := "Process may talk to the window server" },
    { name := "IS_ROSETTA_TRANSLATED", kind := .bool,
      description := "Process runs under Rosetta translation" },
    { name := "DEBUG_WRITE_DIR", kind := .optionalPath,
      description := "Scratch directory writable for debugging" },
    { name := "DARWIN_USER_CACHE_DIR", kind := .optionalPath,
      description := "Per-user cache directory" } ] ++
  (List.range testingReadPathCount).map (fun i =>
    { name := testingReadPath (i + 1), kind := .optionalPath,
      description := "Extra read-only path for test harnesses" }) ++
  [ { name := "CRASH_PORT", kind := .optionalString,
      description := "Mach service name of the crash reporter" } ]

/-- Operations that not every platform defines, and the first version that does. -/
def primitiveVersions : List (String × Int) :=
  [ ("mach-register", 1005), ("nvram*", 1009), ("iokit-get-properties", 1010),
    ("file-map-executable", 1010) ]

def primitivesFor (version : Int) : List String :=
  (primitiveVersions.filter fun (_, since) => since ≤ version).map (·.1)

end SandboxProfile
