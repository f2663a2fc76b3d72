import SandboxProfile.Toml.Text

/-! Writing tables: plain entries first, then the tables among them under headers of
their own. Not every value has a form in such a document. -/
namespace SandboxProfile.Toml

/-- The escapes of one letter, by the characters that they stand for. -/
def shortEscapes : List (Char × Char) :=
  [('\x08', 'b'), ('\n', 'n'), ('\x0c', 'f'), ('\r', 'r'), ('"', '"'), ('\\', '\\')]

def escapedChar (c : Char) : List Char :=
  match shortEscapes.lookup c with
  | some mark => ['\\', mark]
  | none => if isForbidden c then '\\' :: 'u' :: Text.hexFixed 4 c.toNat else [c]

def quotedText (s : String) : String :=
  "\"" ++ String.ofList (s.toList.flatMap escapedChar) ++ "\""

def keyText (s : String) : String :=
  if !s.isEmpty && s.toList.all isBareKeyChar then s else quotedText s

def keyText? : Value → Option String
  | .text s => some (keyText s)
  | _ => none

/-- The digits of an integer, if there are not too many to write. -/
def integerText? (i : Int) : Option String :=
  let digits := toString i.natAbs
  if digits.length > Text.digitLimit then none
  else some (if i < 0 then "-" ++ digits else digits)

def indent (depth : Nat) : String := String.ofList (List.replicate (4 * depth) ' ')

mutual
/-- A value inside of a line. Lists have a line for each item all the same, and start
at some depth of indentation. -/
def valueText? (depth : Nat) : Value → Option String
  | .bool b => some (if b then "true" else "false")
  | .int i => integerText? i
  | .float x => some x.toText
  | .text s => some (quotedText s)
  | .list items => do
    let lines ← itemTexts? (depth + 1) items
    some (if lines.isEmpty then "[]"
      else "[\n" ++ Text.joinWith ",\n" (lines.map (indent (depth + 1) ++ ·)) ++ ",\n" ++
        indent depth ++ "]")
  | .table entries => do
    let parts ← entryTexts? entries
    some (if parts.isEmpty then "\x7b\x7d" else "\x7b " ++ Text.joinWith ", " parts ++ " \x7d")
  | _ => none

def itemTexts? (depth : Nat) : List Value → Option (List String)
  | [] => some []
  | v :: rest => do
    let s ← valueText? depth v
    (itemTexts? depth rest).map (s :: ·)

def entryTexts? : List (Value × Value) → Option (List String)
  | [] => some []
  | (k, v) :: rest => do
    let key ← keyText? k
    let s ← valueText? 0 v
    (entryTexts? rest).map ((key ++ " = " ++ s) :: ·)
end

def longestInline : Nat := 100

/-- Whether a table fits into one line of a list. -/
def fitsInline (s : String) : Bool :=
  s.length + 5 ≤ longestInline && !s.toList.contains '\n'

def isTable : Value → Bool
  | .table _ => true
  | _ => false

/-- Whether a list is written as tables under headers of their own. -/
def needsHeaders (items : List Value) : Option Bool :=
  if items.isEmpty || !items.all isTable then some false
  else (itemTexts? 0 items).map fun texts => !texts.all fitsInline

def qualified (name key : String) : String := if name == "" then key else name ++ "." ++ key

/-- What a table consists of in writing: lines for its plain entries, and the texts of
the tables in it. -/
structure Parts where
  lines : List String
  tables : List String

/-- The text of a table from its parts. A header is left out where nothing but tables
follows it. -/
def assemble (name : String) (inList : Bool) (p : Parts) : String :=
  let header := if inList then s!"[[{name}]]\n"
    else if name ≠ "" && (!p.lines.isEmpty || p.tables.isEmpty) then s!"[{name}]\n"
    else ""
  let own := header ++ String.join p.lines
  Text.joinWith "\n" (if own == "" then p.tables else own :: p.tables)

mutual
def parts? (name : String) : List (Value × Value) → Option Parts
  | [] => some ⟨[], []⟩
  | (k, v) :: rest => do
    let key ← keyText? k
    let others ← parts? name rest
    match v with
    | .table entries =>
      let inner ← parts? (qualified name key) entries
      some ⟨others.lines, assemble (qualified name key) false inner :: others.tables⟩
    | .list items =>
      if ← needsHeaders items then
        let tables ← listTables? (qualified name key) items
        some ⟨others.lines, tables ++ others.tables⟩
      else
        let s ← valueText? 0 (.list items)
        some ⟨(key ++ " = " ++ s ++ "\n") :: others.lines, others.tables⟩
    | v =>
      let s ← valueText? 0 v
      some ⟨(key ++ " = " ++ s ++ "\n") :: others.lines, others.tables⟩

def listTables? (name : String) : List Value → Option (List String)
  | [] => some []
  | .table entries :: rest => do
    let inner ← parts? name entries
    (listTables? name rest).map (assemble name true inner :: ·)
  | _ :: _ => none
end

/-- The text of a table, if every value in it has a form. -/
def write? (entries : List (Value × Value)) : Option String :=
  (parts? "" entries).map (assemble "" false)

end SandboxProfile.Toml
