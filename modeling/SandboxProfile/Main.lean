import SandboxProfile.Command.Run
import Std.Time.Format

/-! The program. It reads what a run may ask for, lets the run happen on that picture of
the disk, and then makes the disk agree with the picture. -/
namespace SandboxProfile.Program
open Files (Disk Entry Place Path Tree)

def variableNames : List String :=
  "HOME" :: Environment.fileVariable :: Override.known.map (·.1)

def environment : IO Environment := do
  let read (name : String) : IO (Option (String × String)) := do
    return (← IO.getEnv name).map (name, ·)
  return (← variableNames.mapM read).filterMap id

/-- The texts that may be paths: arguments, and the values that share one with an option. -/
def candidates (arg : String) : List String :=
  let cs := arg.toList
  [arg, String.ofList ((cs.dropWhile (· ≠ '=')).drop 1), String.ofList (cs.drop 2)]

/-- The paths that a run may touch. -/
def paths (env : Environment) (args : List String) : List Path :=
  let named := (args.flatMap candidates).filter (· ≠ "") |>.map Path.ofText
  let expanded := named.map fun p => (Request.expandHome env p).toOption.getD p
  (env.configPath :: named ++ expanded).flatMap fun p => [p, Config.temporary p]

def placeText (p : Place) : String := "/" ++ Text.joinWith "/" p

/-- What is at a place, if anything is. -/
def look (p : Place) : IO (Option Entry) := do
  try
    let bytes ← IO.FS.readBinFile (placeText p)
    return some (.file bytes.toList Files.newFileMode)
  catch
    | .noFileOrDirectory .. => return none
    | .permissionDenied filename errno details =>
      throw (.permissionDenied filename errno details)
    | _ => return some .folder

/-- The folders around a place, the outermost first, and the place itself. -/
def around (p : Place) : List Place := (List.range p.length).map fun i => p.take (i + 1)

/-- Adds what is on the way to a place, up to the first that is no folder. -/
def addPlaces (t : Tree) : List Place → IO Tree
  | [] => return t
  | p :: rest => do
    match ← look p with
    | none => return t
    | some .folder => addPlaces (t.set p .folder) rest
    | some e => return t.set p e

/-- The names of a path as places: dots are followed name by name. -/
def placeOf (current : Place) (p : Path) : Place :=
  p.parts.foldl Tree.step (if p.isAbsolute then [] else current)

def picture (current : Place) (places : List Place) : IO Disk := do
  let tree ← (current :: places).foldlM (fun t p => addPlaces t (around p)) []
  return ⟨tree, current, fun _ _ => false⟩

def privateRights : IO.FileRight := { user := { read := true, write := true } }

/-- Makes one entry as the picture has it. -/
def put (p : Place) : Entry → IO Unit
  | .folder => IO.FS.createDirAll (placeText p)
  | .file content mode => do
    IO.FS.writeBinFile (placeText p) ⟨content.toArray⟩
    if mode = Config.savedMode then IO.setAccessRights (placeText p) privateRights

/-- Makes the disk agree with a picture of it that has changed. -/
def apply (old new : Tree) : IO Unit := do
  for (p, _) in old do
    if (new.entry? p).isNone then IO.FS.removeFile (placeText p)
  for (p, e) in new do
    if old.entry? p ≠ some e then put p e

def stamp : IO String := do
  let now ← Std.Time.Timestamp.now
  return (Std.Time.DateTime.ofTimestampWithZone now .UTC).format "uuuu-MM-dd'T'HH:mm:ss.SSSSSS'Z'"

/-- A line that the system tells about itself. -/
def told (path : String) : IO String := do
  try return (Text.trim (← IO.FS.readFile path)).toLower
  catch _ => return "unknown"

def run (args : List String) : IO UInt32 := do
  let env ← environment
  let current := (Path.ofText (← IO.currentDir).toString).parts
  let disk ← picture current ((paths env args).map (placeOf current))
  let host : Host := {
    disk := disk, environment := env, runtime := "unknown", release := ""
    system := ← told "/proc/sys/kernel/ostype", machine := ← told "/proc/sys/kernel/arch" }
  let (logging, outcome) := host.run args
  apply disk.tree outcome.disk.tree
  IO.print outcome.output
  IO.eprint (outcome.errorText logging (← stamp))
  if let some e := outcome.escape then IO.eprintln e.message
  return UInt32.ofNat outcome.exit.number

end SandboxProfile.Program

def main (args : List String) : IO UInt32 := SandboxProfile.Program.run args
