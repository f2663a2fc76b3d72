import SandboxProfile.Request.Basic
import SandboxProfile.Yaml.Load

/-! Reading a request from the text of a parameter file. -/
namespace SandboxProfile

/-- Why a text is no request. The source is the name of the text in messages. -/
inductive RequestFault where
  | malformed (source : String)
  /-- A scalar has a form that promises a value, but there is none. -/
  | scalar (fault : Yaml.Fault)
  | notTable (source shape : String)
  | misfit (source : String) (complaints : List Complaint)
  deriving Repr, DecidableEq

def RequestFault.message : RequestFault → String
  | .malformed source => "YAML syntax error in " ++ source
  | .scalar fault => fault.message
  | .notTable source shape => s!"Parameter file {source} must be a YAML mapping (got {shape})"
  | .misfit source complaints =>
    Text.joinWith "\n" (s!"Parameter file validation failed in {source}:" ::
      complaints.map fun c => "  " ++ c.line " → ")

namespace Request

/-- What messages call a value of some form. -/
def shape : Value → String
  | .null => "NoneType"
  | .bool _ => "bool"
  | .int _ => "int"
  | .float _ => "float"
  | .text _ => "str"
  | .bytes _ => "bytes"
  | .moment .date _ => "date"
  | .moment .dateTime _ => "datetime"
  | .moment .time _ => "time"
  | .path _ => "PurePosixPath"
  | .list _ => "list"
  | .set _ => "set"
  | .table _ => "dict"

/-- An empty document is an empty request. -/
def ofValue (source : String) (v : Value) : Except RequestFault Request :=
  let check (entries : List (Value × Value)) : Except RequestFault Request :=
    match ofTable entries with
    | .fits r => .ok r
    | .misfits complaints => .error (.misfit source complaints)
  match v with
  | .null => check []
  | .table entries => check entries
  | v => .error (.notTable source (shape v))

def ofText (source text : String) : Except RequestFault Request :=
  match Yaml.load text with
  | .error .malformed => .error (.malformed source)
  | .error fault => .error (.scalar fault)
  | .ok v => ofValue source v

end Request
end SandboxProfile
