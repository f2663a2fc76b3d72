import SandboxProfile.Config.Load
import SandboxProfile.Toml.Writer

/-! Saving a table in a file. It is written to another file first, which then takes the
place of the one that is meant. -/
namespace SandboxProfile
open Files (Disk Path Filing)

inductive SaveFault where
  /-- The path has no file name. -/
  | noName (path : String)
  | file (fault : Files.Fault)
  /-- The table has no written form, or the disk does not take it. -/
  | unwritten (path : String) (fault : Option Files.Fault)
  deriving Repr, DecidableEq

def SaveFault.message : SaveFault → String
  | .noName path => s!"PosixPath({Text.quoted path}) has an empty name"
  | .file fault => fault.message
  | .unwritten path _ => "Cannot write config to " ++ path

namespace Config

/-- Only the owner may read and write the file. -/
def savedMode : Nat := 0o600

/-- Where a table is written before it takes its place. -/
def temporary (p : Path) : Path := p.withExtension ".tmp"

/-- Writes a table next to its place and moves it there. A table without a written form
has no text. -/
def writeThrough (p : Path) (text : Option String) : Filing Bool := do
  let temp := (temporary p).toText
  let opened ← Files.openForWriting temp
  match text with
  | none => pure false
  | some text =>
    Files.writeOpened temp opened text.toUTF8.toList
    Files.move temp p.toText
    pure true

/-- Saves a table. The outcome is the path of the file. -/
def saveTable (entries : List (Value × Value)) (p : Path) :
    ExceptT SaveFault (StateM Disk) Path := do
  let filing {α} (act : Filing α) : ExceptT SaveFault (StateM Disk) α :=
    ExceptT.adapt SaveFault.file act
  let giveUp (fault : Option Files.Fault) : ExceptT SaveFault (StateM Disk) Unit := do
    filing (Files.removeFile (temporary p).toText)
    throw (.unwritten p.toText fault)
  filing (Files.makeFolders p.parent)
  if p.name = "" then throw (.noName p.toText)
  let written : Except Files.Fault Bool ← ExceptT.lift (writeThrough p (Toml.write? entries)).run
  match written with
  | .ok true => pure ()
  | .ok false => giveUp none
  | .error fault => giveUp (some fault)
  filing (Files.setMode p.toText savedMode)
  pure p

def save (entries : List (Value × Value)) (p : Path) (d : Disk) : Except SaveFault Path × Disk :=
  (saveTable entries p).run.run d

end Config
end SandboxProfile
