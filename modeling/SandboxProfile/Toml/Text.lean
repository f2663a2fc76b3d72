import SandboxProfile.Toml.Scan

/-! Texts: basic ones with escapes between double quotes, literal ones between single
quotes, and both over several lines between three quotes. -/
namespace SandboxProfile.Toml
open Scan

def escapes : List (Char × Char) :=
  [('b', '\x08'), ('t', '\t'), ('n', '\n'), ('f', '\x0c'), ('r', '\r'), ('"', '"'), ('\\', '\\')]

def hexValue? (c : Char) : Option Nat :=
  if '0' ≤ c && c ≤ '9' then some (c.toNat - 0x30)
  else if 'A' ≤ c && c ≤ 'F' then some (c.toNat - 0x37)
  else if 'a' ≤ c && c ≤ 'f' then some (c.toNat - 0x57)
  else none

def codePoint (digits : Nat) : Scan Char := do
  let cs := (← get).take digits
  match cs.mapM hexValue? with
  | some values =>
    let n := values.foldl (fun n d => 16 * n + d) 0
    if cs.length < digits || !(n < 0xD800 || (0xE000 ≤ n && n ≤ 0x10FFFF)) then malformed
    skip digits
    pure (Char.ofNat n)
  | none => malformed

/-- The rest of an escape. Over several lines, a backslash at the end of a line takes
away the white space behind it. -/
def escape (inLines : Bool) : Scan (List Char) := do
  match ← peek with
  | none => malformed
  | some c =>
    if inLines && (isSpace c || c = '\n') then
      skipSpaces
      match ← peek with
      | none => pure ()
      | some c => if c ≠ '\n' then malformed
      skipWhile fun c => isSpace c || c = '\n'
      pure []
    else
      skip 1
      match escapes.lookup c with
      | some r => pure [r]
      | none =>
        if c = 'u' then pure [← codePoint 4]
        else if c = 'U' then pure [← codePoint 8]
        else malformed

def basicRest (inLines : Bool) : Nat → List Char → Scan (List Char)
  | 0, _ => malformed
  | fuel + 1, text => do
    if ← accept (if inLines then "\"\"\"" else "\"") then pure text
    else
      match ← peek with
      | none => malformed
      | some '\\' =>
        skip 1
        let r ← escape inLines
        basicRest inLines fuel (text ++ r)
      | some c =>
        if (if inLines then isForbiddenInLines c else isForbidden c) then malformed
        skip 1
        basicRest inLines fuel (text ++ [c])

def basicText (inLines : Bool) : Scan (List Char) := do
  basicRest inLines ((← get).length + 1) []

def literalText (inLines : Bool) : Scan (List Char) := do
  let mark := if inLines then ['\'', '\'', '\''] else ['\'']
  match splitAt? mark (← get) with
  | none => malformed
  | some (text, rest) =>
    if text.any (if inLines then isForbiddenInLines else isForbidden) then malformed
    set rest
    pure text

/-- Up to two more quotes in front of the closing ones belong to the text. -/
def closingQuotes (quote : Char) : Scan (List Char) := do
  let more := ((← get).take 2).takeWhile (· = quote)
  skip more.length
  pure more

def textLines (quote : Char) (read : Scan (List Char)) : Scan (List Char) := do
  discard (accept "\n")
  let text ← read
  pure (text ++ (← closingQuotes quote))

/-- A text of any form, if one comes next. -/
def text? : Scan (Option String) := do
  if ← accept "\"\"\"" then some <$> String.ofList <$> textLines '"' (basicText true)
  else if ← accept "\"" then some <$> String.ofList <$> basicText false
  else if ← accept "'''" then some <$> String.ofList <$> textLines '\'' (literalText true)
  else if ← accept "'" then some <$> String.ofList <$> literalText false
  else pure none

/-! ### Keys -/

def isBareKeyChar (c : Char) : Bool :=
  ('0' ≤ c && c ≤ '9') || ('A' ≤ c && c ≤ 'Z') || ('a' ≤ c && c ≤ 'z') || c = '-' || c = '_'

def keyPart : Scan String := do
  match ← takeWhile isBareKeyChar with
  | [] =>
    if ← accept "'" then String.ofList <$> literalText false
    else if ← accept "\"" then String.ofList <$> basicText false
    else malformed
  | cs => pure (String.ofList cs)

def keyParts : Nat → Scan (List String)
  | 0 => malformed
  | fuel + 1 => do
    let part ← keyPart
    skipSpaces
    if ← accept "." then
      skipSpaces
      pure (part :: (← keyParts fuel))
    else pure [part]

/-- A key: parts with dots between them. -/
def key : Scan (List String) := do keyParts ((← get).length + 1)

end SandboxProfile.Toml
