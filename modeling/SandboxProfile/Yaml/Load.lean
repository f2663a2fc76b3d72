import SandboxProfile.Table
import SandboxProfile.Yaml.Node

/-! The value of a document. Merge keys bring in the entries of other mappings, in
front of a mapping's own. Collections are filled level by level, so of several faults
the one nearest to the root counts. -/
namespace SandboxProfile.Yaml

namespace Node

mutual
/-- The entries of a mapping: those that merge keys bring in, and its own. -/
def expand : List (Node × Node) → Except Fault (List (Node × Node) × List (Node × Node))
  | [] => .ok ([], [])
  | (k, v) :: rest => do
    if k.tag = .merge then
      let brought ← broughtIn v
      let (merged, own) ← expand rest
      pure (brought ++ merged, own)
    else
      let (merged, own) ← expand rest
      let k := match k with
        | .scalar .standIn text => .scalar .text text
        | k => k
      pure (merged, (k, v) :: own)

def broughtIn : Node → Except Fault (List (Node × Node))
  | .mapping _ entries => do
    let (merged, own) ← expand entries
    pure (merged ++ own)
  | .sequence _ items => broughtInAll items
  | .scalar _ _ => .error .malformed

/-- Of several mappings, the last one comes first. -/
def broughtInAll : List Node → Except Fault (List (Node × Node))
  | [] => .ok []
  | .mapping _ entries :: rest => do
    let (merged, own) ← expand entries
    let others ← broughtInAll rest
    pure (others ++ merged ++ own)
  | _ :: _ => .error .malformed
end

def entries (es : List (Node × Node)) : Except Fault (List (Node × Node)) := do
  let (merged, own) ← expand es
  pure (merged ++ own)

/-- The text of a node where a scalar is needed. -/
def scalarText? : Nat → Node → Option String
  | _, .scalar _ text => some text
  | _, .sequence _ _ => none
  | 0, .mapping _ _ => none
  | fuel + 1, .mapping _ es =>
    (es.find? fun (k, _) => k.tag = .standIn).bind fun (_, v) => scalarText? fuel v

/-- The value of a node that is no collection. A collection is empty at first. -/
def bareValue (fuel : Nat) (n : Node) : Except Fault Value :=
  match n.tag with
  | .sequence | .orderedMap | .pairs => .ok (.list [])
  | .mapping => .ok (.table [])
  | .set => .ok (.set [])
  | tag =>
    match n.scalarText? fuel with
    | some text => scalarValue tag text
    | none => .error .malformed

/-- The single entry of each mapping in a list. -/
def singleEntries : List Node → Except Fault (List (Node × Node))
  | [] => .ok []
  | .mapping _ [entry] :: rest => (entry :: ·) <$> singleEntries rest
  | _ :: _ => .error .malformed

/-- What a collection is made of, once its form has been checked. -/
inductive Contents where
  | items (ns : List Node)
  | entries (es : List (Node × Node))
  | pairs (es : List (Node × Node))

def contents (n : Node) : Except Fault Contents :=
  match n.tag, n with
  | .sequence, .sequence _ ns => .ok (.items ns)
  | .orderedMap, .sequence _ ns | .pairs, .sequence _ ns => .pairs <$> singleEntries ns
  | .mapping, .mapping _ es | .set, .mapping _ es => .entries <$> Node.entries es
  | _, _ => .error .malformed

/-- Whether the value of a node may be the key of a mapping. -/
def isKey (n : Node) : Bool := !n.tag.isCollection

def checkEntries (fuel : Nat) (keysCount : Bool) : List (Node × Node) → Except Fault (List Node)
  | [] => .ok []
  | (k, v) :: rest => do
    discard (bareValue fuel k)
    if keysCount && !k.isKey then throw .malformed
    discard (bareValue fuel v)
    (k :: v :: ·) <$> checkEntries fuel keysCount rest

/-- The parts of a collection, each of which has a bare value. -/
def parts (fuel : Nat) (n : Node) : Except Fault (List Node) := do
  match ← n.contents with
  | .items ns =>
    ns.forM fun p => discard (bareValue fuel p)
    pure ns
  | .entries es => checkEntries fuel true es
  | .pairs es => checkEntries fuel false es

/-- Goes through the collections level by level up to the first fault. -/
def checkLevels : Nat → List Node → Except Fault Unit
  | 0, _ => .ok ()
  | fuel + 1, level => do
    let below ← level.mapM (parts (fuel + 1))
    checkLevels fuel (below.flatten.filter (·.tag.isCollection))

def toValue : Nat → Node → Except Fault Value
  | 0, _ => .error .malformed
  | fuel + 1, n => do
    if n.tag.isCollection then
      let pair (e : Node × Node) : Except Fault (Value × Value) := do
        pure (← toValue fuel e.1, ← toValue fuel e.2)
      match ← n.contents with
      | .items ns => .list <$> ns.mapM (toValue fuel)
      | .pairs es => do
        let es ← es.mapM pair
        pure (.list (es.map fun (k, v) => .list [k, v]))
      | .entries es => do
        let table := Table.ofPairsBy Value.sameKey (← es.mapM pair)
        pure (if n.tag = .set then .set (table.map (·.1)) else .table table)
    else bareValue (fuel + 1) n

mutual
def depth : Node → Nat
  | .scalar _ _ => 1
  | .sequence _ items => 1 + depthOfItems items
  | .mapping _ es => 1 + depthOfEntries es

def depthOfItems : List Node → Nat
  | [] => 0
  | n :: rest => max (depth n) (depthOfItems rest)

def depthOfEntries : List (Node × Node) → Nat
  | [] => 0
  | (k, v) :: rest => max (max (depth k) (depth v)) (depthOfEntries rest)
end

end Node

/-- The value of a document. A stream without one has no value. -/
def load (s : String) : Except Fault Value := do
  match ← Node.ofText s with
  | none => pure .null
  | some n =>
    let fuel := n.depth + 1
    discard (n.bareValue fuel)
    Node.checkLevels fuel (if n.tag.isCollection then [n] else [])
    n.toValue fuel

end SandboxProfile.Yaml
