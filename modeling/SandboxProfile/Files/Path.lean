import SandboxProfile.Text.Layout

/-! Path texts in their normal form. Empty components and single dots are
dropped, dot pairs are kept, and a path that starts with exactly two slashes
keeps both. The empty path is written as a dot. -/
namespace SandboxProfile.Files

structure Path where
  /-- `""`, `"/"` or `"//"`. -/
  root : String
  parts : List String
  deriving Repr, DecidableEq

namespace Path

def rootOf : List Char → String
  | '/' :: '/' :: '/' :: _ => "/"
  | '/' :: '/' :: _ => "//"
  | '/' :: _ => "/"
  | _ => ""

def ofText (s : String) : Path :=
  ⟨rootOf s.toList, (Text.split '/' s).filter fun part => part ≠ "" && part ≠ "."⟩

def toText (p : Path) : String :=
  let s := p.root ++ Text.joinWith "/" p.parts
  if s == "" then "." else s

def isAbsolute (p : Path) : Bool := p.root ≠ ""

/-- A path seen from another one. An absolute path stands for itself. -/
def under (base p : Path) : Path :=
  if p.isAbsolute then p else ⟨base.root, base.parts ++ p.parts⟩

def parent (p : Path) : Path := ⟨p.root, p.parts.dropLast⟩

def name (p : Path) : String := p.parts.getLast?.getD ""

def withName (p : Path) (name : String) : Path := ⟨p.root, p.parts.dropLast ++ [name]⟩

/-- A file name without its last extension. A dot at either end makes none. -/
def stem (name : String) : String :=
  let cs := name.toList
  let tail := cs.reverse.takeWhile (· ≠ '.')
  let front := cs.take (cs.length - tail.length - 1)
  if tail.isEmpty || front.isEmpty || tail.length == cs.length then name else String.ofList front

/-- The path with another extension, which brings its own dot. -/
def withExtension (p : Path) (extension : String) : Path :=
  p.withName (stem p.name ++ extension)

end Path
end SandboxProfile.Files
