import SandboxProfile.Files.Path
import SandboxProfile.Files.Tree
import SandboxProfile.Text.Quoted

/-! A disk: a tree that actions read and change. An action that the tree allows may be
refused all the same. What has changed before a fault stays changed. -/
namespace SandboxProfile.Files

inductive Action where
  /-- Opens a file for writing, which empties it. -/
  | openForWriting
  | write
  | rename
  deriving Repr, DecidableEq

structure Disk where
  tree : Tree
  /-- The folder from which relative paths are seen. -/
  current : Place
  refuses : Action → Place → Bool

/-- A fault with the path that an action was about, and the second one of a move. -/
structure Fault where
  kind : FaultKind
  path : String
  target : Option String
  deriving Repr, DecidableEq

def Fault.message (f : Fault) : String :=
  s!"[Errno {f.kind.number}] {f.kind.reason}: {Text.quoted f.path}" ++
    match f.target with
    | none => ""
    | some target => " -> " ++ Text.quoted target

abbrev Filing := ExceptT Fault (StateM Disk)

/-- An action on a disk: its outcome, and the disk after it. -/
def Filing.on (act : Filing α) (d : Disk) : Except Fault α × Disk := act.run.run d

namespace Disk

def find (d : Disk) (path : String) : Except FaultKind (Place × Entry) :=
  d.tree.find d.current path

/-- Whether there is anything at the end of a path. -/
def holds (d : Disk) (path : String) : Bool := d.find path matches .ok _

def isFolder (d : Disk) (path : String) : Bool := d.find path matches .ok (_, .folder)

def read (d : Disk) (path : String) : Except Fault (List UInt8) :=
  match d.find path with
  | .error kind => .error ⟨kind, path, none⟩
  | .ok (_, .folder) => .error ⟨.isFolder, path, none⟩
  | .ok (_, .file content _) => .ok content

/-- Every file with its path, as a folder sees them. -/
def filesUnder (d : Disk) (folder : Place) : List (String × List UInt8) :=
  d.tree.filterMap fun (p, e) =>
    match e with
    | .file content _ =>
      if folder.isPrefixOf p then some (Text.joinWith "/" (p.drop folder.length), content)
      else none
    | .folder => none

end Disk

/-- The mode of a file that has just been made. -/
def newFileMode : Nat := 0o644

/-- Runs a step that depends on the disk and may change its tree. -/
def onTree (path : String) (target : Option String)
    (f : Disk → Except FaultKind (α × Tree)) : Filing α := do
  let d ← getThe Disk
  match f d with
  | .error kind => throw ⟨kind, path, target⟩
  | .ok (a, tree) =>
    set { d with tree := tree }
    pure a

/-- Opens a file for writing. It is made where it is missing, and emptied elsewhere. -/
def openForWriting (path : String) : Filing Place :=
  onTree path none fun d => do
    let p ← d.tree.locate d.current path
    match d.tree.entry? p with
    | some .folder => throw .isFolder
    | some (.file _ mode) =>
      if d.refuses .openForWriting p then throw .refused
      pure (p, d.tree.set p (.file [] mode))
    | none =>
      if d.refuses .openForWriting p then throw .refused
      pure (p, d.tree.set p (.file [] newFileMode))

/-- Writes the content of a file that has been opened. -/
def writeOpened (path : String) (p : Place) (content : List UInt8) : Filing Unit :=
  onTree path none fun d => do
    if d.refuses .write p then throw .refused
    match d.tree.entry? p with
    | some (.file _ mode) => pure ((), d.tree.set p (.file content mode))
    | _ => throw .absent

def write (path : String) (content : List UInt8) : Filing Unit := do
  let p ← openForWriting path
  writeOpened path p content

/-- Moves a file to another place, where it takes the place of any file. -/
def move (source target : String) : Filing Unit :=
  onTree source (some target) fun d => do
    let (p, e) ← d.find source
    let q ← d.tree.locate d.current target
    match e, d.tree.entry? q with
    | .file _ _, some .folder => throw .isFolder
    | .folder, _ => throw .isFolder
    | .file content mode, _ =>
      if d.refuses .rename p then throw .refused
      pure ((), (d.tree.erase p).set q (.file content mode))

/-- Removes a file, if there is one. -/
def removeFile (path : String) : Filing Unit :=
  onTree path none fun d =>
    match d.find path with
    | .error .absent => .ok ((), d.tree)
    | .error kind => .error kind
    | .ok (_, .folder) => .error .isFolder
    | .ok (p, .file _ _) => .ok ((), d.tree.erase p)

def setMode (path : String) (mode : Nat) : Filing Unit :=
  onTree path none fun d => do
    match ← d.find path with
    | (p, .file content _) => pure ((), d.tree.set p (.file content mode))
    | (_, .folder) => pure ((), d.tree)

/-- Makes one folder where nothing is. -/
def makeFolder (path : String) : Filing Unit :=
  onTree path none fun d => do
    let p ← d.tree.locate d.current path
    if (d.tree.entry? p).isSome then throw .taken
    pure ((), d.tree.set p .folder)

/-- Makes a folder unless it is there. -/
def makeFolderIfAbsent (path : String) : Filing Unit :=
  tryCatch (makeFolder path) fun fault => do
    unless fault.kind ≠ .absent && (← getThe Disk).isFolder path do throw fault

/-- Makes a folder and those around it, as far as they are missing. -/
def makeFolders (p : Path) : Filing Unit :=
  ofParts p.root p.parts.reverse
where
  ofParts (root : String) : List String → Filing Unit
    | [] => makeFolderIfAbsent (Path.toText ⟨root, []⟩)
    | name :: outer => do
      let path := Path.toText ⟨root, (name :: outer).reverse⟩
      tryCatch (makeFolderIfAbsent path) fun fault => do
        if fault.kind ≠ .absent then throw fault
        ofParts root outer
        makeFolderIfAbsent path

end SandboxProfile.Files
