import SandboxProfile.Console.Markup
import SandboxProfile.Text.Layout

/-! Texts on their way to a stream that is no terminal. -/
namespace SandboxProfile.Console

/-- Control characters that never reach a console. -/
def isDropped (c : Char) : Bool :=
  [0x07, 0x08, 0x0B, 0x0C, 0x0D].contains c.toNat

def tabWidth : Nat := 8

/-- Fills every tab up to the next column, given the column that the line has reached. -/
def expandTabs (column : Nat) : List Char → List Char
  | [] => []
  | '\n' :: cs => '\n' :: expandTabs 0 cs
  | '\t' :: cs =>
    let room := tabWidth - column % tabWidth
    List.replicate room ' ' ++ expandTabs (column + room) cs
  | c :: cs => c :: expandTabs (column + 1) cs

/-- A text with markup as a console writes it, and the end of its line. -/
def print? (s : String) : Option String :=
  (Markup.text? s).map fun s =>
    String.ofList (expandTabs 0 (s.toList.filter (!isDropped ·))) ++ "\n"

/-- What follows an escape sequence that starts with a bracket: semicolons, question marks
and digits up to a letter. -/
def afterSequence? (cs : List Char) : Option (List Char) :=
  match cs.dropWhile fun c => c = ';' || c = '?' || c.isDigit with
  | c :: rest => if c.isAlpha then some rest else none
  | [] => none

/-- A text without the escape sequences that only a terminal understands. -/
def withoutSequences : Nat → List Char → List Char
  | 0, cs => cs
  | _ + 1, [] => []
  | fuel + 1, '\x1b' :: '[' :: cs =>
    match afterSequence? cs with
    | some rest => withoutSequences fuel rest
    | none => '\x1b' :: withoutSequences fuel ('[' :: cs)
  | fuel + 1, c :: cs => c :: withoutSequences fuel cs

/-- A text that is written as it is, but for escape sequences. -/
def echo (s : String) : String := String.ofList (withoutSequences s.length s.toList)

end SandboxProfile.Console
