import SandboxProfile.Yaml.Fault

/-! A place in a text, and steps that read on from it. A line ends with a line feed,
a carriage return, both in this order, or one of three Unicode line breaks. -/
namespace SandboxProfile.Yaml

def isBreak (c : Char) : Bool :=
  c = '\n' || c = '\r' || c.toNat == 0x85 || c.toNat == 0x2028 || c.toNat == 0x2029

/-- White space of either kind: inside a line or at its end. -/
def isGap (c : Char) : Bool := c = ' ' || c = '\t' || isBreak c

structure Cursor where
  rest : List Char
  /-- How many characters stand before the cursor. -/
  index : Nat
  line : Nat
  column : Nat
  deriving Repr

namespace Cursor

def start (s : String) : Cursor := ⟨s.toList, 0, 0, 0⟩

def byteOrderMark : Char := '\uFEFF'

/-- The cursor one character on. A byte order mark takes no column. -/
def next (c : Cursor) : Cursor :=
  match c.rest with
  | [] => c
  | '\r' :: '\n' :: rest => ⟨'\n' :: rest, c.index + 1, c.line, c.column + 1⟩
  | ch :: rest =>
    if isBreak ch then ⟨rest, c.index + 1, c.line + 1, 0⟩
    else if ch = byteOrderMark then ⟨rest, c.index + 1, c.line, c.column⟩
    else ⟨rest, c.index + 1, c.line, c.column + 1⟩

def advance : Nat → Cursor → Cursor
  | 0, c => c
  | n + 1, c => advance n c.next

/-- Whether the character at some distance is of a class, or the text ends before it. -/
def endsOr (p : Char → Bool) (distance : Nat) (c : Cursor) : Bool :=
  match (c.rest.drop distance).head? with
  | none => true
  | some ch => p ch

/-- Whether a line that marks the start or the end of a document stands here. -/
def atMarker (c : Cursor) : Bool :=
  (c.rest.take 3 == ['-', '-', '-'] || c.rest.take 3 == ['.', '.', '.']) && c.endsOr isGap 3

end Cursor

/-- Reading on from a cursor. -/
abbrev Scan := StateT Cursor (Except Fault)

namespace Scan

def malformed : Scan α := throw .malformed

def peek : Scan (Option Char) := return (← get).rest.head?

def skip (n : Nat) : Scan Unit := modify (Cursor.advance n)

def ends (p : Char → Bool) : Scan Bool := return (← get).endsOr p 0

def expectEnd (p : Char → Bool) : Scan Unit := do
  unless ← ends p do malformed

def takeWhile (p : Char → Bool) : Scan (List Char) := do
  let found := (← get).rest.takeWhile p
  skip found.length
  pure found

def skipWhile (p : Char → Bool) : Scan Unit := discard (takeWhile p)

def skipSpaces : Scan Unit := skipWhile (· = ' ')

def skipComment : Scan Unit := do
  if (← peek) == some '#' then skipWhile (!isBreak ·)

/-- Reads a line break, if there is one. The two breaks of Unicode that separate
lines and paragraphs stand for themselves, every other one for a line feed. -/
def lineBreak : Scan (List Char) := do
  match (← get).rest with
  | '\r' :: '\n' :: _ =>
    skip 2
    pure ['\n']
  | c :: _ =>
    if c.toNat == 0x2028 || c.toNat == 0x2029 then
      skip 1
      pure [c]
    else if isBreak c then
      skip 1
      pure ['\n']
    else pure []
  | [] => pure []

/-- The rest of a line that may hold nothing but a comment. -/
def emptyRest : Scan Unit := do
  skipSpaces
  skipComment
  expectEnd isBreak
  discard lineBreak

def isNameChar (c : Char) : Bool :=
  ('0' ≤ c && c ≤ '9') || ('A' ≤ c && c ≤ 'Z') || ('a' ≤ c && c ≤ 'z') || c = '-' || c = '_'

def name : Scan String := do
  match ← takeWhile isNameChar with
  | [] => malformed
  | cs => pure (String.ofList cs)

def hexValue? (c : Char) : Option Nat :=
  if '0' ≤ c && c ≤ '9' then some (c.toNat - 0x30)
  else if 'A' ≤ c && c ≤ 'F' then some (c.toNat - 0x37)
  else if 'a' ≤ c && c ≤ 'f' then some (c.toNat - 0x57)
  else none

/-- A fixed number of hexadecimal digits. -/
def hexDigits (count : Nat) : Scan Nat := do
  let cs := (← get).rest.take count
  match cs.mapM hexValue? with
  | some digits =>
    if digits.length < count then malformed
    skip count
    pure (digits.foldl (fun n d => 16 * n + d) 0)
  | none => malformed

end Scan
end SandboxProfile.Yaml
