import SandboxProfile.Policy.RoleNames
import SandboxProfile.Validation.Lenient

/-! Fields of tables, and the forms of those that parameter files and the configuration
have in common. -/
namespace SandboxProfile.Checked

/-- What a table has under a key, or a default where it has nothing. -/
def field (key : String) (fallback : α) (check : Value → Checked α)
    (entries : List (Value × Value)) : Checked α :=
  match Value.entry? key entries with
  | none => .fits fallback
  | some v => (check v).within key

def text (v : Value) : Checked String := ofExcept (Lenient.text v)

def texts (items : List Value) : Checked (List String) :=
  all (items.zipIdx.map fun (v, i) => (text v).within (toString i))

/-- A tier, or none. -/
def tier (v : Value) : Checked (Option Tier) :=
  match v with
  | .null => .fits none
  | v => ofExcept ((Lenient.tier v).map some)

/-- Role names as a list or as one text. -/
def roles (v : Value) : Checked (List String) :=
  match v with
  | .text s => .fits (RoleNames.ofText s)
  | .list items | .set items => texts items
  | _ => misfit .notList

end SandboxProfile.Checked
