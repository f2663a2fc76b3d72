import SandboxProfile.Number.Shortest
import SandboxProfile.Text.Layout
import SandboxProfile.Text.Quoted

/-! Values of no fixed type, as files and callers supply them, and the form in
which messages show them. -/
namespace SandboxProfile
open Number

inductive MomentKind where
  | date
  | dateTime
  | time
  deriving Repr, DecidableEq

inductive Value where
  | null
  | bool (b : Bool)
  | int (i : Int)
  | float (x : Binary64)
  | text (s : String)
  | bytes (bs : List UInt8)
  | moment (kind : MomentKind) (written : String)
  | path (s : String)
  | list (items : List Value)
  | set (items : List Value)
  | table (entries : List (Value × Value))
  deriving Repr, Inhabited

namespace Value

mutual
/-- Whether two values are one and the same, form by form. -/
def same : Value → Value → Bool
  | .null, .null => true
  | .bool a, .bool b => a == b
  | .int i, .int j => i == j
  | .float x, .float y => x == y
  | .text s, .text t => s == t
  | .bytes bs, .bytes cs => bs == cs
  | .moment kind s, .moment kind' t => kind == kind' && s == t
  | .path s, .path t => s == t
  | .list items, .list others => sameItems items others
  | .set items, .set others => sameItems items others
  | .table entries, .table others => sameEntries entries others
  | _, _ => false

def sameItems : List Value → List Value → Bool
  | [], [] => true
  | v :: rest, w :: others => same v w && sameItems rest others
  | _, _ => false

def sameEntries : List (Value × Value) → List (Value × Value) → Bool
  | [], [] => true
  | (k, v) :: rest, (k', w) :: others => same k k' && same v w && sameEntries rest others
  | _, _ => false
end

instance : BEq Value := ⟨same⟩

mutual
theorem same_iff : ∀ {v w : Value}, same v w = true ↔ v = w
  | .list items, w => by cases w <;> simp [same, sameItems_iff]
  | .set items, w => by cases w <;> simp [same, sameItems_iff]
  | .table entries, w => by cases w <;> simp [same, sameEntries_iff]
  | .null, w | .bool _, w | .int _, w | .float _, w | .text _, w | .bytes _, w
  | .moment _ _, w | .path _, w => by cases w <;> simp [same]

theorem sameItems_iff : ∀ {items others : List Value}, sameItems items others = true ↔ items = others
  | [], others => by cases others <;> simp [sameItems]
  | v :: rest, others => by cases others <;> simp [sameItems, same_iff, sameItems_iff]

theorem sameEntries_iff : ∀ {entries others : List (Value × Value)},
    sameEntries entries others = true ↔ entries = others
  | [], others => by cases others <;> simp [sameEntries]
  | (k, v) :: rest, others => by
    cases others <;> simp [sameEntries, same_iff, sameEntries_iff, Prod.ext_iff]
end

instance : LawfulBEq Value where
  rfl := same_iff.mpr rfl
  eq_of_beq := same_iff.mp

instance : DecidableEq Value := instDecidableEqOfLawfulBEq

def boolText (b : Bool) : String := if b then "True" else "False"

mutual
/-- A value as messages show it. -/
def literal : Value → String
  | .null => "None"
  | .bool b => boolText b
  | .int i => toString i
  | .float x => x.toText
  | .text s => Text.quoted s
  | .bytes bs => "b" ++ Text.quoted (String.ofList (bs.map fun b => Char.ofNat b.toNat))
  | .moment _ written => written
  | .path s => "PurePosixPath(" ++ Text.quoted s ++ ")"
  | .list items => "[" ++ Text.joinWith ", " (literals items) ++ "]"
  | .set items => "\x7b" ++ Text.joinWith ", " (literals items) ++ "\x7d"
  | .table entries => "\x7b" ++ Text.joinWith ", " (entryLiterals entries) ++ "\x7d"

def literals : List Value → List String
  | [] => []
  | v :: rest => literal v :: literals rest

def entryLiterals : List (Value × Value) → List String
  | [] => []
  | (k, v) :: rest => (literal k ++ ": " ++ literal v) :: entryLiterals rest
end

/-- A value as running text: texts and paths stand without quotes. -/
def display : Value → String
  | .text s => s
  | .path s => s
  | v => literal v

def numeral? : Value → Option Int
  | .bool b => some (if b then 1 else 0)
  | .int i => some i
  | .float x => x.toInt?
  | _ => none

/-- Two values that stand for one key of a table. Numbers are one key when they
are equal, whatever their form. -/
def sameKey (a b : Value) : Bool :=
  match numeral? a, numeral? b with
  | some i, some j => i == j
  | none, none => a == b
  | _, _ => false

/-- The entry of a table under a text. -/
def entry? (key : String) (entries : List (Value × Value)) : Option Value :=
  (entries.find? fun (k, _) => k == .text key).map (·.2)

end Value
end SandboxProfile
