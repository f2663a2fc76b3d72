import SandboxProfile.Yaml.Cursor

/-! The texts of scalars: plain, quoted, and block scalars. Line breaks inside them
are folded: a single one reads as a space, and of several the first is dropped. -/
namespace SandboxProfile.Yaml
open Scan

/-- What a run of line breaks stands for: the first break and the ones after it. -/
def fold (first : List Char) (others : List Char) : List Char :=
  if first ≠ ['\n'] then first ++ others
  else if others.isEmpty then [' ']
  else others

/-! ### Plain scalars -/

/-- Whether a word of a plain scalar ends before these characters. Brackets and
commas end it inside brackets only. -/
def wordEnds (inFlow : Bool) : List Char → Bool
  | [] => true
  | ':' :: rest =>
    match rest with
    | [] => true
    | c :: _ => isGap c || (inFlow && [',', '[', ']', '\x7b', '\x7d'].contains c)
  | c :: _ => isGap c || (inFlow && [',', '?', '[', ']', '\x7b', '\x7d'].contains c)

def word (inFlow : Bool) : List Char → List Char
  | [] => []
  | c :: rest => if wordEnds inFlow (c :: rest) then [] else c :: word inFlow rest

/-- The breaks and spaces before the next word, or nothing if a document marker
comes first. -/
def plainBreaks : Nat → List Char → Scan (Option (List Char))
  | 0, _ => pure none
  | fuel + 1, breaks => do
    match ← peek with
    | some ' ' =>
      skip 1
      plainBreaks fuel breaks
    | some c =>
      if isBreak c then
        let br ← lineBreak
        if (← get).atMarker then pure none else plainBreaks fuel (breaks ++ br)
      else pure (some breaks)
    | none => pure (some breaks)

/-- What stands between two words, or nothing where no word can follow, and whether
a line ends in it. -/
def plainGap : Scan (Option (List Char) × Bool) := do
  let spaces ← takeWhile (· = ' ')
  let c ← get
  if c.rest.isEmpty || !c.endsOr isBreak 0 then
    pure (if spaces.isEmpty then none else some spaces, false)
  else
    let first ← lineBreak
    let c ← get
    if c.atMarker then pure (none, true)
    else
      let others ← plainBreaks (c.rest.length + 1) []
      pure (others.map (fold first), true)

def plainWords (inFlow : Bool) (indent : Int) :
    Nat → List Char → Scan (List Char × Bool)
  | 0, _ => malformed
  | fuel + 1, text => do
    let w := word inFlow (← get).rest
    skip w.length
    let text := text ++ w
    let (gap, broken) ← plainGap
    match gap with
    | none => pure (text, broken)
    | some g =>
      let c ← get
      if c.rest.head? == some '#' || (!inFlow && (c.column : Int) < indent) ||
          (word inFlow c.rest).isEmpty then pure (text, broken)
      else plainWords inFlow indent fuel (text ++ g)

/-- A plain scalar, and whether its last word ends a line. -/
def plainScalar (inFlow : Bool) (indent : Int) : Scan (List Char × Bool) := do
  plainWords inFlow indent ((← get).rest.length + 1) []

/-! ### Quoted scalars -/

/-- The breaks after a break inside quotes. A document marker may not follow. -/
def quotedBreaks : Nat → List Char → Scan (List Char)
  | 0, _ => malformed
  | fuel + 1, breaks => do
    if (← get).atMarker then malformed
    skipWhile fun c => c = ' ' || c = '\t'
    match ← lineBreak with
    | [] => pure breaks
    | br => quotedBreaks fuel (breaks ++ br)

/-- White space inside quotes. It stands for itself inside a line. -/
def quotedGap : Scan (List Char) := do
  let spaces ← takeWhile fun c => c = ' ' || c = '\t'
  match ← lineBreak with
  | [] => pure spaces
  | first =>
    let others ← quotedBreaks ((← get).rest.length + 1) []
    pure (fold first others)

/-- What a character after a backslash stands for. -/
def escapes : List (Char × Char) :=
  [('0', '\x00'), ('a', '\x07'), ('b', '\x08'), ('t', '\t'), ('\t', '\t'), ('n', '\n'),
    ('v', '\x0b'), ('f', '\x0c'), ('r', '\r'), ('e', '\x1b'), (' ', ' '), ('"', '"'), ('\\', '\\'),
    ('/', '/'), ('N', '\u0085'), ('_', '\u00a0'), ('L', '\u2028'), ('P', '\u2029')]

/-- How many hexadecimal digits follow an escape of a code point. -/
def escapeWidths : List (Char × Nat) := [('x', 2), ('u', 4), ('U', 8)]

def escape : Scan (List Char) := do
  match ← peek with
  | none => malformed
  | some c =>
    if let some r := escapes.lookup c then
      skip 1
      pure [r]
    else if let some width := escapeWidths.lookup c then
      skip 1
      let code ← hexDigits width
      if code > 0x10FFFF then throw (.noCodePoint (code ≥ 0x80000000))
      if 0xD800 ≤ code && code ≤ 0xDFFF then throw .surrogate
      pure [Char.ofNat code]
    else
      match ← lineBreak with
      | [] => malformed
      | _ => quotedBreaks ((← get).rest.length + 1) []

def quotedRest (double : Bool) : Nat → List Char → Scan (List Char)
  | 0, _ => malformed
  | fuel + 1, text => do
    match (← get).rest with
    | [] => malformed
    | c :: rest =>
      if isGap c then
        let gap ← quotedGap
        if (← peek).isNone then malformed
        quotedRest double fuel (text ++ gap)
      else if double && c = '"' then
        skip 1
        pure text
      else if !double && c = '\'' then
        if rest.head? == some '\'' then
          skip 2
          quotedRest double fuel (text ++ ['\''])
        else
          skip 1
          pure text
      else if double && c = '\\' then
        skip 1
        let r ← escape
        quotedRest double fuel (text ++ r)
      else
        skip 1
        quotedRest double fuel (text ++ [c])

def quotedScalar (double : Bool) : Scan (List Char) := do
  skip 1
  quotedRest double ((← get).rest.length + 1) []

/-! ### Block scalars -/

/-- What happens to the line breaks at the end of a block scalar. -/
inductive Chomping where
  | strip
  | clip
  | keep
  deriving Repr, DecidableEq

def chomping? : Scan (Option Chomping) := do
  match ← peek with
  | some '+' =>
    skip 1
    pure (some .keep)
  | some '-' =>
    skip 1
    pure (some .strip)
  | _ => pure none

def increment? : Scan (Option Nat) := do
  match ← peek with
  | some c =>
    if '0' ≤ c && c ≤ '9' then
      if c = '0' then malformed
      skip 1
      pure (some (c.toNat - 0x30))
    else pure none
  | none => pure none

/-- The indicators of a block scalar, in either order. -/
def blockHeader : Scan (Chomping × Option Nat) := do
  match ← chomping? with
  | some ch => pure (ch, ← increment?)
  | none =>
    match ← increment? with
    | some i => pure ((← chomping?).getD .clip, some i)
    | none => pure (.clip, none)

/-- The empty lines before the first line of text, and the greatest column that
their spaces reach. -/
def leadingBreaks : Nat → List Char → Nat → Scan (List Char × Nat)
  | 0, breaks, column => pure (breaks, column)
  | fuel + 1, breaks, column => do
    match ← peek with
    | some ' ' =>
      skip 1
      leadingBreaks fuel breaks (max column (← get).column)
    | some c =>
      if isBreak c then
        let br ← lineBreak
        leadingBreaks fuel (breaks ++ br) column
      else pure (breaks, column)
    | none => pure (breaks, column)

def skipIndent (indent : Nat) : Scan Unit := do
  let c ← get
  skip ((c.rest.take (indent - c.column)).takeWhile (· = ' ')).length

/-- The empty lines between two lines of text. -/
def innerBreaks (indent : Nat) : Nat → List Char → Scan (List Char)
  | 0, breaks => pure breaks
  | fuel + 1, breaks => do
    skipIndent indent
    match ← lineBreak with
    | [] => pure breaks
    | br => innerBreaks indent fuel (breaks ++ br)

/-- Whether a line of text starts at the indentation. -/
def atBlockLine (indent : Nat) : Scan Bool := do
  let c ← get
  pure (c.column == indent && !c.rest.isEmpty)

def startsWithSpace : Scan Bool := do
  pure ((← peek).any fun c => c = ' ' || c = '\t')

/-- The lines of a block scalar, given the empty lines in front. The last break and
the empty lines at the end are kept apart. -/
def blockLines (folded : Bool) (indent : Nat) :
    Nat → List Char → List Char → Scan (List Char × List Char × List Char)
  | 0, _, _ => malformed
  | fuel + 1, text, breaks => do
    if !(← atBlockLine indent) then pure (text, [], breaks)
    else
      let spaced ← startsWithSpace
      let line ← takeWhile (!isBreak ·)
      let text := text ++ breaks ++ line
      let br ← lineBreak
      let breaks ← innerBreaks indent ((← get).rest.length + 1) []
      if ← atBlockLine indent then
        let joint := if folded && br == ['\n'] && !spaced && !(← startsWithSpace) then
            if breaks.isEmpty then [' '] else []
          else br
        blockLines folded indent fuel (text ++ joint) breaks
      else pure (text, br, breaks)

/-- A block scalar below lines of some indentation. -/
def blockScalar (folded : Bool) (parent : Int) : Scan (List Char) := do
  skip 1
  let (chomping, increment) ← blockHeader
  expectEnd fun c => c = ' ' || isBreak c
  emptyRest
  let least := (max (parent + 1) 1).toNat
  let fuel := (← get).rest.length + 1
  let (breaks, indent) ← match increment with
    | some i => do
      let indent := least + i - 1
      pure (← innerBreaks indent fuel [], indent)
    | none => do
      let (breaks, column) ← leadingBreaks fuel [] 0
      pure (breaks, max least column)
  let (text, br, breaks) ← blockLines folded indent fuel [] breaks
  pure <| match chomping with
    | .strip => text
    | .clip => text ++ br
    | .keep => text ++ br ++ breaks

end SandboxProfile.Yaml
