import SandboxProfile.Table
import SandboxProfile.Toml.Scalar
import SandboxProfile.Toml.Text

/-! Documents: lines that set a key, and headers that name the table which the next
lines are about. A table can be declared once, and what stands in brackets or braces
cannot be added to later. -/
namespace SandboxProfile.Toml
open Scan

abbrev Entries := List (Value × Value)

/-- Changes the entries of a nested table, which is made where it is missing. Of a list
of tables the last one is meant. -/
def atPath (throughLists : Bool) (f : Entries → Except Fault Entries) :
    List String → Entries → Except Fault Entries
  | [], entries => f entries
  | k :: ks, entries => do
    let insert (v : Value) : Entries := Table.insert (.text k) v entries
    match Value.entry? k entries with
    | none => return insert (.table (← atPath throughLists f ks []))
    | some (.table inner) => return insert (.table (← atPath throughLists f ks inner))
    | some (.list items) =>
      match throughLists, items.getLast? with
      | true, some (.table inner) =>
        return insert (.list (items.dropLast ++ [.table (← atPath throughLists f ks inner)]))
      | _, _ => .error .malformed
    | some _ => .error .malformed

/-- Adds an entry whose key must be new. -/
def addNew (k : String) (v : Value) (entries : Entries) : Except Fault Entries :=
  match Value.entry? k entries with
  | none => .ok (entries ++ [(.text k, v)])
  | some _ => .error .malformed

/-- Adds an empty table to a list of tables. -/
def addTable (k : String) (entries : Entries) : Except Fault Entries :=
  match Value.entry? k entries with
  | none => .ok (entries ++ [(.text k, .list [.table []])])
  | some (.list items) => .ok (Table.insert (.text k) (.list (items ++ [.table []])) entries)
  | some _ => .error .malformed

/-- Whether one of some paths leads to a path or to something around it. -/
def covers (paths : List (List String)) (path : List String) : Bool :=
  !path.isEmpty && paths.any (·.isPrefixOf path)

def isClosed (v : Value) : Bool :=
  match v with
  | .table _ | .list _ => true
  | _ => false

/-- The parent of a path and its last part. -/
def splitLast (path : List String) : List String × String := (path.dropLast, path.getLast?.getD "")

/-! ### Values -/

/-- An entry inside of braces. -/
def addInline (closed : List (List String)) (path : List String) (v : Value) (entries : Entries) :
    Except Fault Entries :=
  if covers closed path then .error .malformed
  else
    let (parent, last) := splitLast path
    atPath false (addNew last v) parent entries

def truth? : Scan (Option Value) := do
  if ← accept "true" then pure (some (.bool true))
  else if ← accept "false" then pure (some (.bool false))
  else pure none

mutual
def value : Nat → Scan Value
  | 0 => malformed
  | fuel + 1 => do
    if ← accept "[" then
      gaps
      .list <$> items fuel
    else if ← accept "\x7b" then
      skipSpaces
      if ← accept "\x7d" then pure (.table []) else .table <$> inlineEntries [] [] fuel
    else
      match ← text? with
      | some s => pure (.text s)
      | none => firstOf [truth?, timeValue?, basedInteger?, decimal?, wordNumber?]

/-- The items of a list up to its end. A comma may stand behind the last one. -/
def items : Nat → Scan (List Value)
  | 0 => malformed
  | fuel + 1 => do
    if ← accept "]" then pure []
    else
      let v ← value fuel
      gaps
      if ← accept "]" then pure [v]
      else
        expect ","
        gaps
        pure (v :: (← items fuel))

/-- The entries of an inline table up to its end, given those so far and which of them
cannot be added to. -/
def inlineEntries (closed : List (List String)) (entries : Entries) : Nat → Scan Entries
  | 0 => malformed
  | fuel + 1 => do
    let path ← key
    expect "="
    skipSpaces
    let v ← value fuel
    let entries ← StateT.lift (addInline closed path v entries)
    skipSpaces
    if ← accept "\x7d" then pure entries
    else
      expect ","
      skipSpaces
      inlineEntries (if isClosed v then path :: closed else closed) entries fuel
end

/-! ### Statements -/

inductive Statement where
  | setting (path : List String) (v : Value)
  | header (path : List String)
  | listHeader (path : List String)

/-- A statement, up to the spaces behind it. -/
def statement : Scan Statement := do
  if ← accept "[[" then
    skipSpaces
    let path ← key
    expect "]]"
    pure (.listHeader path)
  else if ← accept "[" then
    skipSpaces
    let path ← key
    expect "]"
    pure (.header path)
  else
    let path ← key
    expect "="
    skipSpaces
    let v ← value ((← get).length + 1)
    pure (.setting path v)

structure Document where
  entries : Entries
  /-- The table that the last header named. -/
  current : List String
  /-- The tables that no header may name any more. -/
  declared : List (List String)
  /-- The tables that lines since the last header have reached through dots. -/
  reached : List (List String)
  /-- What stands in brackets or braces. -/
  closed : List (List String)
  deriving Repr

namespace Document

def empty : Document := ⟨[], [], [], [], []⟩

/-- The paths between the current table and a key below it. -/
def between (current path : List String) : List (List String) :=
  (List.range (path.length - 1)).map fun i => current ++ path.take (i + 1)

def set (d : Document) (path : List String) (v : Value) : Except Fault Document := do
  let (parent, last) := splitLast path
  let through := between d.current path
  if through.any d.declared.contains then throw .malformed
  if covers d.closed (d.current ++ parent) then throw .malformed
  let entries ← atPath true (addNew last v) (d.current ++ parent) d.entries
  pure { d with
    entries := entries
    reached := d.reached ++ through
    closed := if isClosed v then (d.current ++ path) :: d.closed else d.closed }

/-- What lines have reached counts as declared from the next header on. -/
def settle (d : Document) : Document :=
  { d with declared := d.reached ++ d.declared, reached := [] }

def openTable (d : Document) (path : List String) : Except Fault Document := do
  let d := d.settle
  if d.declared.contains path || covers d.closed path then throw .malformed
  let entries ← atPath true .ok path d.entries
  pure { d with entries := entries, declared := path :: d.declared, current := path }

/-- A new table at the end of a list. Nothing is declared in it yet. -/
def openListTable (d : Document) (path : List String) : Except Fault Document := do
  let d := d.settle
  if covers d.closed path then throw .malformed
  let (parent, last) := splitLast path
  let entries ← atPath true (addTable last) parent d.entries
  let outside (p : List String) : Bool := !path.isPrefixOf p
  pure { d with
    entries := entries
    declared := path :: d.declared.filter outside
    closed := d.closed.filter outside
    current := path }

def apply (d : Document) : Statement → Except Fault Document
  | .setting path v => d.set path v
  | .header path => d.openTable path
  | .listHeader path => d.openListTable path

end Document

def startsStatement (c : Char) : Bool := isBareKeyChar c || c = '"' || c = '\'' || c = '['

/-- Reads a document line by line. -/
def lines : Nat → Document → Scan Document
  | 0, d => pure d
  | fuel + 1, d => do
    skipSpaces
    match ← peek with
    | none => pure d
    | some '\n' =>
      skip 1
      lines fuel d
    | some c =>
      let d ← if startsStatement c then do
          let s ← statement
          StateT.lift (d.apply s)
        else if c = '#' then pure d
        else malformed
      skipSpaces
      skipComment
      match ← peek with
      | none => pure d
      | some '\n' =>
        skip 1
        lines fuel d
      | some _ => malformed

/-- A carriage return in front of a line feed belongs to the line break. -/
def unifyBreaks : List Char → List Char
  | '\r' :: '\n' :: rest => '\n' :: unifyBreaks rest
  | c :: rest => c :: unifyBreaks rest
  | [] => []

/-- The table that a document describes. -/
def load (s : String) : Except Fault Entries := do
  let cs := unifyBreaks s.toList
  let (d, _) ← StateT.run (lines (cs.length + 1) .empty) cs
  pure d.entries

end SandboxProfile.Toml
