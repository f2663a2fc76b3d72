import SandboxProfile.Yaml.Scalar
import SandboxProfile.Yaml.Tag

/-! Tokens of a document. Indentation shows up as tokens that open and close blocks.
A simple key is known to be one only at the colon behind it, so the tokens that mark
it are kept apart from the others and put in front of it at the end. -/
namespace SandboxProfile.Yaml

inductive Token where
  | directive (d : Directive)
  | documentStart
  | documentEnd
  | streamEnd
  | blockSequence
  | blockMapping
  | blockEnd
  | flowSequence
  | flowSequenceEnd
  | flowMapping
  | flowMappingEnd
  | entry
  | comma
  | key
  | value
  | alias (name : String)
  | anchor (name : String)
  | tag (written : WrittenTag)
  | scalar (text : String) (plain : Bool)
  deriving Repr, DecidableEq

/-- A token that may turn out to start a simple key. -/
structure SimpleKey where
  /-- How many tokens come before it. -/
  position : Nat
  /-- Whether it must be a key, since nothing else can stand at its column. -/
  required : Bool
  index : Nat
  line : Nat
  column : Nat
  deriving Repr

/-- A place among the tokens where a key starts, and a mapping with its first one. -/
structure KeyMark where
  position : Nat
  opensMapping : Bool
  deriving Repr, DecidableEq

structure Scanner where
  cursor : Cursor
  /-- How many brackets are open. -/
  flow : Nat
  /-- The columns of the open blocks, innermost first. -/
  indents : List Nat
  /-- Whether a simple key may start here. -/
  keyAllowed : Bool
  /-- At most one candidate for each number of open brackets. -/
  candidates : List (Nat × SimpleKey)
  /-- The tokens so far, last first. -/
  emitted : List Token
  marks : List KeyMark
  finished : Bool
  deriving Repr

namespace Scanner

def start (s : String) : Scanner := ⟨.start s, 0, [], true, [], [], [], false⟩

/-- The column of the innermost block; outside of blocks there is none. -/
def indent (s : Scanner) : Int :=
  match s.indents with
  | [] => -1
  | column :: _ => column

def emit (t : Token) (s : Scanner) : Scanner := { s with emitted := t :: s.emitted }

/-- Puts the marks of keys in front of the tokens that they belong to. -/
def splice (marks : List KeyMark) : Nat → List Token → List Token
  | _, [] => []
  | i, t :: rest =>
    let here := match marks.find? (·.position == i) with
      | none => []
      | some m => if m.opensMapping then [Token.blockMapping, .key] else [.key]
    here ++ t :: splice marks (i + 1) rest

def tokens (s : Scanner) : List Token := splice s.marks 0 s.emitted.reverse

end Scanner

abbrev Lexing := StateT Scanner (Except Fault)

namespace Lexing

def malformed : Lexing α := throw .malformed

def emit (t : Token) : Lexing Unit := modify (Scanner.emit t)

def scan (x : Scan α) : Lexing α := do
  let s ← get
  let (a, c) ← StateT.lift (x.run s.cursor)
  set { s with cursor := c }
  pure a

def skip (n : Nat) : Lexing Unit := scan (Scan.skip n)

def allowKey (allowed : Bool) : Lexing Unit := modify fun s => { s with keyAllowed := allowed }

/-- Closes every block whose column is right of a given one. -/
def closeBlocks (column : Int) : Lexing Unit := modify fun s =>
  if s.flow != 0 then s
  else
    let closed := s.indents.takeWhile fun (i : Nat) => column < (i : Int)
    { s with
      indents := s.indents.drop closed.length
      emitted := closed.map (fun _ => Token.blockEnd) ++ s.emitted }

/-- Opens a block at a column, unless one is open there already. -/
def openBlock (column : Nat) : Lexing Bool := do
  let s ← get
  if s.indent < (column : Int) then
    set { s with indents := column :: s.indents }
    pure true
  else pure false

/-- Drops the candidates that lie on an earlier line or too far back. -/
def dropStale : Lexing Unit := do
  let s ← get
  let stale (k : SimpleKey) : Bool :=
    k.line != s.cursor.line || s.cursor.index - k.index > 1024
  if s.candidates.any fun (_, k) => stale k && k.required then malformed
  set { s with candidates := s.candidates.filter fun (_, k) => !stale k }

def dropCandidate : Lexing Unit := do
  let s ← get
  if (s.candidates.lookup s.flow).any (·.required) then malformed
  set { s with candidates := s.candidates.filter (·.1 != s.flow) }

def saveCandidate : Lexing Unit := do
  let s ← get
  if s.keyAllowed then
    let c := s.cursor
    let required := s.flow == 0 && s.indent == (c.column : Int)
    dropCandidate
    modify fun s => { s with
      candidates := (s.flow, ⟨s.emitted.length, required, c.index, c.line, c.column⟩) :: s.candidates }

/-- Goes on to the next token over spaces, comments and line breaks. A break outside
of brackets lets a simple key start. -/
def toNextToken : Nat → Lexing Unit
  | 0 => pure ()
  | fuel + 1 => do
    let s ← get
    if s.cursor.index == 0 && s.cursor.rest.head? == some Cursor.byteOrderMark then skip 1
    scan Scan.skipSpaces
    scan Scan.skipComment
    match ← scan Scan.lineBreak with
    | [] => pure ()
    | _ =>
      if (← get).flow == 0 then allowKey true
      toNextToken fuel

def finish : Lexing Unit := do
  closeBlocks (-1)
  dropCandidate
  modify fun s => { s with keyAllowed := false, candidates := [], finished := true }
  emit .streamEnd

def atLineStart (t : Lexing Token) : Lexing Unit := do
  closeBlocks (-1)
  dropCandidate
  allowKey false
  emit (← t)

def openFlow (t : Token) : Lexing Unit := do
  saveCandidate
  modify fun s => { s with flow := s.flow + 1, keyAllowed := true }
  skip 1
  emit t

def closeFlow (t : Token) : Lexing Unit := do
  dropCandidate
  modify fun s => { s with flow := s.flow - 1, keyAllowed := false }
  skip 1
  emit t

/-- An entry of a block or an explicit key, which opens a block where none is open. -/
def openEntry (opening : Token) : Lexing Unit := do
  let s ← get
  if s.flow == 0 then
    unless s.keyAllowed do malformed
    if ← openBlock s.cursor.column then emit opening

def blockEntry : Lexing Unit := do
  openEntry .blockSequence
  allowKey true
  dropCandidate
  skip 1
  emit .entry

def explicitKey : Lexing Unit := do
  openEntry .blockMapping
  allowKey ((← get).flow == 0)
  dropCandidate
  skip 1
  emit .key

/-- A colon. It makes the candidate in front of it a key, if there is one. -/
def value : Lexing Unit := do
  let s ← get
  match s.candidates.lookup s.flow with
  | some k =>
    set { s with candidates := s.candidates.filter (·.1 != s.flow) }
    let opens ← if s.flow == 0 then openBlock k.column else pure false
    modify fun s => { s with marks := ⟨k.position, opens⟩ :: s.marks, keyAllowed := false }
  | none =>
    openEntry .blockMapping
    allowKey (s.flow == 0)
    dropCandidate
  skip 1
  emit .value

def comma : Lexing Unit := do
  allowKey true
  dropCandidate
  skip 1
  emit .comma

/-- A token that may start a simple key. -/
def keyable (t : Lexing Token) : Lexing Unit := do
  saveCandidate
  allowKey false
  emit (← t)

def reference (t : String → Token) : Lexing Token := scan do
  Scan.skip 1
  let name ← Scan.name
  Scan.expectEnd fun c => isGap c || ['?', ':', ',', ']', '\x7d', '%', '@', '\x60'].contains c
  pure (t name)

def block (folded : Bool) : Lexing Unit := do
  allowKey true
  dropCandidate
  let text ← scan (blockScalar folded (← get).indent)
  emit (.scalar (String.ofList text) false)

def quoted (double : Bool) : Lexing Token := do
  pure (.scalar (String.ofList (← scan (quotedScalar double))) false)

def plain : Lexing Token := do
  let s ← get
  let (text, broken) ← scan (plainScalar (s.flow != 0) (s.indent + 1))
  if broken then allowKey true
  pure (.scalar (String.ofList text) true)

/-- The characters that no plain scalar starts with. A dash, a question mark or a
colon may start one in front of something else than a gap. -/
def indicators : List Char :=
  ['-', '?', ':', ',', '[', ']', '\x7b', '\x7d', '#', '&', '*', '!', '|', '>', '\'', '"', '%', '@', '\x60']

/-- Reads the next token. -/
def step : Lexing Unit := do
  toNextToken ((← get).cursor.rest.length + 1)
  dropStale
  closeBlocks (← get).cursor.column
  let s ← get
  let c := s.cursor
  let inFlow := s.flow != 0
  let gapNext := c.endsOr isGap 1
  match c.rest.head? with
  | none => finish
  | some ch =>
    if c.column == 0 && ch = '%' then atLineStart (.directive <$> scan Yaml.directive)
    else if c.column == 0 && c.atMarker then
      atLineStart do
        skip 3
        pure (if ch = '-' then .documentStart else .documentEnd)
    else if ch = '[' then openFlow .flowSequence
    else if ch = '\x7b' then openFlow .flowMapping
    else if ch = ']' then closeFlow .flowSequenceEnd
    else if ch = '\x7d' then closeFlow .flowMappingEnd
    else if ch = ',' then comma
    else if ch = '-' && gapNext then blockEntry
    else if ch = '?' && (inFlow || gapNext) then explicitKey
    else if ch = ':' && (inFlow || gapNext) then value
    else if ch = '*' then keyable (reference .alias)
    else if ch = '&' then keyable (reference .anchor)
    else if ch = '!' then keyable (.tag <$> scan Yaml.tag)
    else if ch = '|' && !inFlow then block false
    else if ch = '>' && !inFlow then block true
    else if ch = '\'' then keyable (quoted false)
    else if ch = '"' then keyable (quoted true)
    else if (!isGap ch && !indicators.contains ch) ||
        (!gapNext && (ch = '-' || (!inFlow && (ch = '?' || ch = ':')))) then keyable plain
    else malformed

def run : Nat → Scanner → List Token × Fault
  | 0, s => (s.tokens, .malformed)
  | fuel + 1, s =>
    match StateT.run step s with
    | .error fault => (s.tokens, fault)
    | .ok ((), s') => if s'.finished then (s'.tokens, .malformed) else run fuel s'

end Lexing

/-- The tokens of a text as far as they can be read, and the fault that comes after
the last of them. -/
def tokenize (s : String) : List Token × Fault :=
  Lexing.run (s.length + 2) (.start s)

end SandboxProfile.Yaml
