import SandboxProfile.Value

/-! Values as JSON, in ASCII alone. A character beyond the first plane is written as the
two halves of its pair. -/
namespace SandboxProfile.Json
open Text (hexFixed)

def unit (n : Nat) : List Char := '\\' :: 'u' :: hexFixed 4 n

def shortEscapes : List (Char × Char) :=
  [('"', '"'), ('\\', '\\'), ('\n', 'n'), ('\r', 'r'), ('\t', 't'), ('\x08', 'b'), ('\x0c', 'f')]

def escapedChar (c : Char) : List Char :=
  match shortEscapes.lookup c with
  | some mark => ['\\', mark]
  | none =>
    let n := c.toNat
    if 0x20 ≤ n && n < 0x7F then [c]
    else if n < 0x10000 then unit n
    else unit (0xD800 + (n - 0x10000) / 0x400) ++ unit (0xDC00 + (n - 0x10000) % 0x400)

def quotedText (s : String) : String :=
  "\"" ++ String.ofList (s.toList.flatMap escapedChar) ++ "\""

/-- How parts are set apart: inside of brackets on lines of their own, or all on one line. -/
structure Layout where
  /-- What stands in front of a part, and behind the last one, by depth. -/
  gap : Nat → String
  separator : String

def Layout.pretty : Layout :=
  ⟨fun depth => "\n" ++ String.ofList (List.replicate (2 * depth) ' '), ","⟩

def Layout.oneLine : Layout := ⟨fun _ => "", ", "⟩

def Layout.enclose (l : Layout) (depth : Nat) (first last : String) (parts : List String) :
    String :=
  if parts.isEmpty then first ++ last
  else first ++ Text.joinWith l.separator (parts.map (l.gap (depth + 1) ++ ·)) ++ l.gap depth ++ last

mutual
/-- A value at some depth. Values that the format does not know are written as text. -/
def write (l : Layout) (depth : Nat) : Value → String
  | .null => "null"
  | .bool b => if b then "true" else "false"
  | .int i => toString i
  | .text s => quotedText s
  | .list items => l.enclose depth "[" "]" (writeItems l (depth + 1) items)
  | .table entries => l.enclose depth "\x7b" "\x7d" (writeEntries l (depth + 1) entries)
  | v => quotedText v.literal

def writeItems (l : Layout) (depth : Nat) : List Value → List String
  | [] => []
  | v :: rest => write l depth v :: writeItems l depth rest

def writeEntries (l : Layout) (depth : Nat) : List (Value × Value) → List String
  | [] => []
  | (k, v) :: rest =>
    (quotedText k.display ++ ": " ++ write l depth v) :: writeEntries l depth rest
end

/-- A value over several lines. -/
def pretty (v : Value) : String := write .pretty 0 v

/-- A value on one line. -/
def line (v : Value) : String := write .oneLine 0 v

/-- An object with texts as keys. -/
def object (entries : List (String × Value)) : Value :=
  .table (entries.map fun (k, v) => (.text k, v))

end SandboxProfile.Json
