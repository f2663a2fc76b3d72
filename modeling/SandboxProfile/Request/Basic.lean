import SandboxProfile.Content.Library
import SandboxProfile.Parameter.Build
import SandboxProfile.Validation.Fields

/-! Requests for a compilation: raw parameters, and what to compose for them. Every
parameter is a truth value, an integer, a text, or nothing. -/
namespace SandboxProfile

structure Request where
  parameters : List (String × Value)
  tier : Option Tier
  roles : List String
  library : String
  deriving Repr, BEq

namespace Request

/-- How a key is written in a location. -/
def keyLabel : Value → String
  | .text s => s
  | .bool b => if b then "1" else "0"
  | v => v.literal

/-- A value that is none of the three kinds, with a complaint for each of them. -/
def noneOf (truth integer text : Misfit) : Checked α :=
  .misfits [⟨["bool"], truth⟩, ⟨["int"], integer⟩, ⟨["str"], text⟩]

/-- The integers that a float may stand for are below this one, with either sign. -/
def floatBound : Nat := 0x8000000000000000

/-- Zero and one stand for truth values, other whole numbers for integers. -/
def ofFloat (x : Number.Binary64) : Checked Value :=
  match x.toInt? with
  | some 0 => .fits (.bool false)
  | some 1 => .fits (.bool true)
  | some i =>
    if i.natAbs < floatBound then .fits (.int i)
    else noneOf .notTruth .integerTooLarge .notText
  | none =>
    noneOf .notTruth (if x.isFinite then .integerFractional else .integerNotFinite) .notText

/-- Encoded text counts as a truth value or an integer if it reads as one. -/
def ofBytes (bs : List UInt8) : Checked Value :=
  match Lenient.utf8? bs with
  | none => noneOf .truthUnclear .integerUnclear .textNotUnicode
  | some s =>
    match Lenient.truthOfText? s, Lenient.integerOfText? s with
    | some b, _ => .fits (.bool b)
    | none, some i => .fits (.int i)
    | none, none => .fits (.text s)

def parameter (v : Value) : Checked Value :=
  match v with
  | .null | .bool _ | .int _ | .text _ => .fits v
  | .float x => ofFloat x
  | .bytes bs => ofBytes bs
  | _ => noneOf .notTruth .notInteger .notText

/-- A name and its raw value. -/
def binding (entry : Value × Value) : Checked (String × Value) :=
  let (key, v) := entry
  Checked.within (keyLabel key)
    (Prod.mk <$> (Checked.text key).within "[key]" <*> parameter v)

def bindings (v : Value) : Checked (List (String × Value)) :=
  match v with
  | .table entries => Table.ofPairs <$> Checked.all (entries.map binding)
  | _ => .misfit .notTable

def fieldNames : List String := ["parameters", "tier", "roles", "library"]

/-- A complaint about every entry that a request does not have. -/
def strangers (entries : List (Value × Value)) : List Complaint :=
  entries.filterMap fun (key, _) =>
    match key with
    | .text s => if fieldNames.contains s then none else some ⟨[s], .extraEntry⟩
    | key => some ⟨[keyLabel key], .keyNotText⟩

def noStrangers (entries : List (Value × Value)) : Checked Unit :=
  match strangers entries with
  | [] => .fits ()
  | cs => .misfits cs

def ofTable (entries : List (Value × Value)) : Checked Request :=
  Request.mk <$> Checked.field "parameters" [] bindings entries
    <*> Checked.field "tier" none Checked.tier entries
    <*> Checked.field "roles" [] Checked.roles entries
    <*> Checked.field "library" Content.libraryName Checked.text entries
    <* noStrangers entries

/-- The parameters bound against those of a content process. -/
def toStore (r : Request) : Except ParameterFault Store :=
  Store.build r.parameters (some contentParameters) none versionParameter

end Request
end SandboxProfile
