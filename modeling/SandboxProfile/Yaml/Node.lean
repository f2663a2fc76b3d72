import SandboxProfile.Yaml.Schema
import SandboxProfile.Yaml.Token

/-! Nodes of a document: scalars, sequences and mappings, each with its type. An alias
stands for the node that has its anchor; inside of that node it stands for an empty one. -/
namespace SandboxProfile.Yaml

inductive Node where
  | scalar (tag : Tag) (text : String)
  | sequence (tag : Tag) (items : List Node)
  | mapping (tag : Tag) (entries : List (Node × Node))
  deriving Repr

instance : Inhabited Node := ⟨.scalar .null ""⟩

def Node.tag : Node → Tag
  | .scalar t _ | .sequence t _ | .mapping t _ => t

structure Reader where
  tokens : List Token
  /-- What is wrong behind the last token. -/
  fault : Fault
  /-- What the handles of tags stand for. -/
  handles : List (String × String)
  anchors : List (String × Node)

abbrev Reading := StateT Reader (Except Fault)

namespace Reading

def malformed : Reading α := throw .malformed

def peek : Reading Token := do
  let s ← get
  match s.tokens with
  | t :: _ => pure t
  | [] => throw s.fault

def drop : Reading Unit := modify fun s => { s with tokens := s.tokens.drop 1 }

def next : Reading Token := do
  let t ← peek
  drop
  pure t

/-- Whether the next token is one of a few. -/
def at_ (ts : List Token) : Reading Bool := return ts.contains (← peek)

def emptyScalar : Node := .scalar .null ""

def defaultHandles : List (String × String) := [("!", "!"), ("!!", Tag.namesStart)]

/-- The full name of a tag. -/
def fullName (written : WrittenTag) : Reading String := do
  match written.handle with
  | none => pure written.suffix
  | some handle =>
    match (← get).handles.lookup handle with
    | some start => pure (start ++ written.suffix)
    | none => malformed

/-- The anchor and the tag in front of a node, in either order. -/
def properties : Reading (Option String × Option String) := do
  match ← peek with
  | .anchor name =>
    drop
    match ← peek with
    | .tag written =>
      drop
      pure (some name, some (← fullName written))
    | _ => pure (some name, none)
  | .tag written =>
    drop
    let anchor ← match ← peek with
      | .anchor name => do
        drop
        pure (some name)
      | _ => pure none
    pure (anchor, some (← fullName written))
  | _ => pure (none, none)

def setAnchor (anchor : Option String) (node : Node) : Reading Unit :=
  match anchor with
  | none => pure ()
  | some name => modify fun s => { s with anchors := (name, node) :: s.anchors }

/-- The type that a tag names. Without a tag, and with the tag that names none, it
is the given one. -/
def typeOr (tag : Option String) (untagged : Tag) : Tag :=
  match tag with
  | none | some "!" => untagged
  | some full => .ofName full

def scalarType (tag : Option String) (text : String) (plain : Bool) : Tag :=
  match tag with
  | none => if plain then .ofPlain text else .text
  | some "!" => .ofPlain text
  | some full => .ofName full

mutual
/-- A node. Inside brackets, blocks cannot start. In a mapping, a sequence may stand
at the column of its key. -/
def node (block indentless : Bool) : Nat → Reading Node
  | 0 => malformed
  | fuel + 1 => do
    match ← peek with
    | .alias name =>
      drop
      match (← get).anchors.lookup name with
      | some n => pure n
      | none => malformed
    | _ =>
      let (anchor, tag) ← properties
      let anchors := (← get).anchors
      if anchor.any fun name => (anchors.lookup name).isSome then malformed
      let collection (empty : Node) (read : Reading Node) : Reading Node := do
        setAnchor anchor empty
        let n ← read
        setAnchor anchor n
        pure n
      let sequence (read : Reading (List Node)) : Reading Node :=
        let t := typeOr tag .sequence
        collection (.sequence t []) (Node.sequence t <$> read)
      let mapping (read : Reading (List (Node × Node))) : Reading Node :=
        let t := typeOr tag .mapping
        collection (.mapping t []) (Node.mapping t <$> read)
      match ← peek, block with
      | .scalar text plain, _ =>
        drop
        let n := Node.scalar (scalarType tag text plain) text
        setAnchor anchor n
        pure n
      | .flowSequence, _ =>
        drop
        sequence (flowItems true fuel)
      | .flowMapping, _ =>
        drop
        mapping (flowEntries true fuel)
      | .blockSequence, true =>
        drop
        sequence (blockItems fuel)
      | .blockMapping, true =>
        drop
        mapping (blockEntries fuel)
      | t, _ =>
        if indentless && t = .entry then sequence (indentlessItems fuel)
        else if anchor.isSome || tag.isSome then
          let n := Node.scalar (scalarType tag "" true) ""
          setAnchor anchor n
          pure n
        else malformed

/-- A node, or an empty scalar in front of one of a few tokens. -/
def nodeBefore (block indentless : Bool) (stops : List Token) : Nat → Reading Node
  | 0 => malformed
  | fuel + 1 => do if ← at_ stops then pure emptyScalar else node block indentless fuel

def blockItems : Nat → Reading (List Node)
  | 0 => malformed
  | fuel + 1 => do
    match ← next with
    | .entry =>
      let n ← nodeBefore true false [.entry, .blockEnd] fuel
      pure (n :: (← blockItems fuel))
    | .blockEnd => pure []
    | _ => malformed

def indentlessItems : Nat → Reading (List Node)
  | 0 => malformed
  | fuel + 1 => do
    if ← at_ [.entry] then
      drop
      let n ← nodeBefore true false [.entry, .key, .value, .blockEnd] fuel
      pure (n :: (← indentlessItems fuel))
    else pure []

/-- The value of a key, which may be missing. -/
def valueBefore (block : Bool) (stops : List Token) : Nat → Reading Node
  | 0 => malformed
  | fuel + 1 => do
    if ← at_ [.value] then
      drop
      nodeBefore block block stops fuel
    else pure emptyScalar

def blockEntries : Nat → Reading (List (Node × Node))
  | 0 => malformed
  | fuel + 1 => do
    match ← next with
    | .key =>
      let k ← nodeBefore true true [.key, .value, .blockEnd] fuel
      let v ← valueBefore true [.key, .value, .blockEnd] fuel
      pure ((k, v) :: (← blockEntries fuel))
    | .blockEnd => pure []
    | _ => malformed

/-- The comma in front of every item of a bracket but the first. -/
def comma (first : Bool) : Reading Unit := do
  if !first then
    if (← next) ≠ .comma then malformed

/-- The items of a bracket. A key makes an item a mapping with one entry. -/
def flowItems (first : Bool) : Nat → Reading (List Node)
  | 0 => malformed
  | fuel + 1 => do
    if ← at_ [.flowSequenceEnd] then
      drop
      pure []
    else
      comma first
      if ← at_ [.key] then
        drop
        let k ← nodeBefore false false [.value, .comma, .flowSequenceEnd] fuel
        let v ← valueBefore false [.comma, .flowSequenceEnd] fuel
        pure (.mapping .mapping [(k, v)] :: (← flowItems false fuel))
      else if ← at_ [.flowSequenceEnd] then
        drop
        pure []
      else
        let n ← node false false fuel
        pure (n :: (← flowItems false fuel))

/-- The entries of a brace. A node without a key in front of it has an empty value. -/
def flowEntries (first : Bool) : Nat → Reading (List (Node × Node))
  | 0 => malformed
  | fuel + 1 => do
    if ← at_ [.flowMappingEnd] then
      drop
      pure []
    else
      comma first
      if ← at_ [.key] then
        drop
        let k ← nodeBefore false false [.value, .comma, .flowMappingEnd] fuel
        let v ← valueBefore false [.comma, .flowMappingEnd] fuel
        pure ((k, v) :: (← flowEntries false fuel))
      else if ← at_ [.flowMappingEnd] then
        drop
        pure []
      else
        let k ← node false false fuel
        pure ((k, emptyScalar) :: (← flowEntries false fuel))
end

/-- Enough for any document of some number of tokens. -/
def fuelFor (tokens : Nat) : Nat := 4 * tokens + 8

def rootNode : Reading Node := do node true false (fuelFor (← get).tokens.length)

/-- The directives in front of a document. -/
def directives : Nat → Bool → List (String × String) → Reading (List (String × String))
  | 0, _, _ => malformed
  | fuel + 1, versioned, handles => do
    match ← peek with
    | .directive d =>
      drop
      match d with
      | .version major =>
        if versioned || major ≠ 1 then malformed
        directives fuel true handles
      | .handle handle standsFor =>
        if (handles.lookup handle).isSome then malformed
        directives fuel versioned ((handle, standsFor) :: handles)
      | .other => directives fuel versioned handles
    | _ => pure handles

def explicitDocument : Reading Node := do
  let handles ← directives ((← get).tokens.length + 1) false []
  modify fun s => { s with handles := handles ++ defaultHandles }
  if (← next) ≠ .documentStart then malformed
  match ← peek with
  | .directive _ | .documentStart | .documentEnd | .streamEnd => pure emptyScalar
  | _ => rootNode

def streamEnd : Reading Unit := do
  modify fun s => { s with tokens := s.tokens.dropWhile (· = .documentEnd) }
  if (← peek) ≠ .streamEnd then malformed

/-- The only document of a stream, if there is one. -/
def document : Reading (Option Node) := do
  match ← peek with
  | .streamEnd => pure none
  | .directive _ | .documentStart =>
    let n ← explicitDocument
    streamEnd
    pure (some n)
  | _ =>
    let n ← rootNode
    streamEnd
    pure (some n)

end Reading

/-- The characters that a document may consist of. -/
def isAllowed (c : Char) : Bool :=
  let n := c.toNat
  c = '\t' || c = '\n' || c = '\r' || (0x20 ≤ n && n ≤ 0x7E) || n == 0x85 ||
    (0xA0 ≤ n && n ≤ 0xD7FF) || (0xE000 ≤ n && n ≤ 0xFFFD) || 0x10000 ≤ n

/-- Reads the root node of a text. -/
def Node.ofText (s : String) : Except Fault (Option Node) :=
  if s.toList.all isAllowed then
    let (tokens, fault) := tokenize s
    (·.1) <$> StateT.run Reading.document ⟨tokens, fault, Reading.defaultHandles, []⟩
  else .error .malformed

end SandboxProfile.Yaml
