import SandboxProfile.Text.Integer
import SandboxProfile.Value

/-! Reading on in a text, with white space and comments. -/
namespace SandboxProfile.Toml

inductive Fault where
  | malformed
  | tooManyDigits (digits : Nat)
  deriving Repr, DecidableEq

abbrev Scan := StateT (List Char) (Except Fault)

def isControl (c : Char) : Bool := c.toNat < 32 || c.toNat == 127

/-- Control characters that may not stand inside a line. -/
def isForbidden (c : Char) : Bool := isControl c && c ≠ '\t'

/-- Control characters that may not stand inside a text of several lines. -/
def isForbiddenInLines (c : Char) : Bool := isForbidden c && c ≠ '\n'

def isSpace (c : Char) : Bool := c = ' ' || c = '\t'

namespace Scan

def malformed : Scan α := throw .malformed

def peek : Scan (Option Char) := return (← get).head?

def skip (n : Nat) : Scan Unit := modify (List.drop n)

def takeWhile (p : Char → Bool) : Scan (List Char) := do
  let found := (← get).takeWhile p
  skip found.length
  pure found

def skipWhile (p : Char → Bool) : Scan Unit := modify (List.dropWhile p)

def skipSpaces : Scan Unit := skipWhile isSpace

/-- Reads a mark, if it comes next. -/
def accept (mark : String) : Scan Bool := do
  if mark.toList.isPrefixOf (← get) then
    skip mark.length
    pure true
  else pure false

def expect (mark : String) : Scan Unit := do
  unless ← accept mark do malformed

/-- What stands before the first occurrence of a mark, and what behind it. -/
def splitAt? (mark : List Char) : List Char → Option (List Char × List Char)
  | [] => if mark.isEmpty then some ([], []) else none
  | c :: rest =>
    if mark.isPrefixOf (c :: rest) then some ([], (c :: rest).drop mark.length)
    else (splitAt? mark rest).map fun (before, behind) => (c :: before, behind)

def skipComment : Scan Unit := do
  if ← accept "#" then
    let body ← takeWhile (· ≠ '\n')
    if body.any isForbidden then malformed

/-- Goes on over spaces, line breaks and comments. -/
def skipGaps : Nat → Scan Unit
  | 0 => pure ()
  | fuel + 1 => do
    skipWhile fun c => isSpace c || c = '\n'
    if (← peek) == some '#' then
      skipComment
      skipGaps fuel

def gaps : Scan Unit := do skipGaps ((← get).length + 1)

end Scan
end SandboxProfile.Toml
