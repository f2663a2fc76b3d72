import SandboxProfile.Digest.Sha256
import SandboxProfile.Policy.Library

/-! Policy documents: the statements in force, in order, and their text. -/
namespace SandboxProfile

structure Document where
  statements : List Statement
  tier : Option Tier
  roles : List String
  fragmentIds : List String
  library : String
  deriving Repr, BEq

namespace Document

def languageVersion : Nat := 1

def renderStatements (statements : List Statement) : Except PolicyFault (List String) :=
  statements.mapM (Statement.render 0)

/-- The text of a document: the version form, then every statement in order. -/
def emit (d : Document) : Except PolicyFault String := do
  let lines ← renderStatements d.statements
  pure (Text.joinWith "\n" (s!"(version {languageVersion})" :: lines) ++ "\n")

/-- Sixteen hexadecimal digits that stand for the text. -/
def contentHash (d : Document) : Except PolicyFault String :=
  d.emit.map fun text =>
    String.ofList ((Digest.hex (Digest.sha256 text.toUTF8.toList)).toList.take 16)

end Document
end SandboxProfile
