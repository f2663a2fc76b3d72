import SandboxProfile.Table
import SandboxProfile.Text.Layout

/-! Trees of folders and files, and where a path leads in one. -/
namespace SandboxProfile.Files

/-- The names that lead to a place from the root. -/
abbrev Place := List String

inductive Entry where
  | folder
  | file (content : List UInt8) (mode : Nat)
  deriving Repr, DecidableEq

inductive FaultKind where
  | absent
  | refused
  | taken
  | notFolder
  | isFolder
  deriving Repr, DecidableEq

namespace FaultKind

def number : FaultKind → Nat
  | .absent => 2
  | .refused => 13
  | .taken => 17
  | .notFolder => 20
  | .isFolder => 21

def reason : FaultKind → String
  | .absent => "No such file or directory"
  | .refused => "Permission denied"
  | .taken => "File exists"
  | .notFolder => "Not a directory"
  | .isFolder => "Is a directory"

end FaultKind

/-- The root is a folder that is not listed. -/
abbrev Tree := List (Place × Entry)

namespace Tree

def entry? (t : Tree) (p : Place) : Option Entry := if p = [] then some .folder else t.lookup p

def set (t : Tree) (p : Place) (e : Entry) : Tree := Table.insert p e t

def erase (t : Tree) (p : Place) : Tree := t.filter fun (q, _) => q ≠ p

/-- One step from a folder. -/
def step (p : Place) (name : String) : Place :=
  if name = "" || name = "." then p else if name = ".." then p.dropLast else p ++ [name]

/-- Where some names lead. Every step starts from a folder; the last one may lead to a
place where nothing is. -/
def walk (t : Tree) (p : Place) : List String → Except FaultKind Place
  | [] => .ok p
  | name :: rest =>
    match t.entry? p with
    | none => .error .absent
    | some (.file _ _) => .error .notFolder
    | some .folder => walk t (step p name) rest

/-- Where a path leads that is seen from a folder. The empty path leads nowhere. -/
def locate (t : Tree) (folder : Place) (path : String) : Except FaultKind Place :=
  if path = "" then .error .absent
  else walk t (if path.toList.head? = some '/' then [] else folder) (Text.split '/' path)

/-- What is at the end of a path. -/
def find (t : Tree) (folder : Place) (path : String) : Except FaultKind (Place × Entry) := do
  let p ← t.locate folder path
  match t.entry? p with
  | none => .error .absent
  | some e => .ok (p, e)

end Tree
end SandboxProfile.Files
