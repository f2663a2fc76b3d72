/-! Association lists in which every key stands once. A second value for a key
takes the place of the first one. -/
namespace SandboxProfile.Table

def insertBy (same : κ → κ → Bool) (key : κ) (value : α) : List (κ × α) → List (κ × α)
  | [] => [(key, value)]
  | (k, v) :: rest =>
    if same k key then (k, value) :: rest else (k, v) :: insertBy same key value rest

def ofPairsBy (same : κ → κ → Bool) (pairs : List (κ × α)) : List (κ × α) :=
  pairs.foldl (fun table (key, value) => insertBy same key value table) []

def insert [BEq κ] (key : κ) (value : α) (table : List (κ × α)) : List (κ × α) :=
  insertBy (· == ·) key value table

def ofPairs [BEq κ] (pairs : List (κ × α)) : List (κ × α) := ofPairsBy (· == ·) pairs

end SandboxProfile.Table
