import SandboxProfile.Log.Record
import SandboxProfile.Parameter.Store

/-! Building a store from raw values. With a catalogue the names are bound in its
order, with its defaults for what is not supplied; a required name that is not
supplied stays unbound. Without one the kinds are read off the values. -/
namespace SandboxProfile

/-- The kind that a raw value is bound as where no catalogue gives it. -/
def inferKind : Value → ParamKind
  | .bool _ => .bool
  | .int _ => .int
  | .text s | .path s => if isAbsolutePath s then .path else .string
  | .null => .optionalString
  | _ => .string

namespace Store

def bindAll (s : Store) (bindings : List (String × ParamKind × Value)) :
    Except ParameterFault Store :=
  bindings.foldlM (fun s (name, kind, raw) => (·.2) <$> s.bind name kind raw) s

/-- What is bound for a catalogue entry, if anything is. -/
def bindingFor (values : List (String × Value)) (spec : ParameterSpec) :
    Option (String × ParamKind × Value) :=
  match values.lookup spec.name with
  | some raw => some (spec.name, spec.kind, raw)
  | none => if spec.required then none else some (spec.name, spec.kind, spec.fallback)

def fill (values : List (String × Value)) : Option Catalogue → Except ParameterFault Store
  | none =>
    (create none none).bindAll (values.map fun (name, raw) => (name, inferKind raw, raw))
  | some c =>
    match values.find? fun (name, _) => (c.find? name).isNone with
    | some (name, _) => .error (.unknownName name)
    | none => (create (some c) none).bindAll (c.filterMap (bindingFor values))

/-- The primitives that the version of the platform defines. A toggle counts as
the version zero or one. -/
def derivedPrimitives (s : Store) (version : String) : Option (List String) :=
  match s.find? version with
  | some ⟨_, _, some (.number i)⟩ => some (primitivesFor i)
  | some ⟨_, _, some (.flag b)⟩ => some (primitivesFor (if b then 1 else 0))
  | _ => none

/-- Builds and freezes a store. -/
def build (values : List (String × Value)) (catalogue : Option Catalogue)
    (primitives : Option (List String)) (version : String) : Except ParameterFault Store := do
  let s ← fill values catalogue
  let known := match primitives with
    | some given => some given
    | none => s.derivedPrimitives version
  pure ({ s with primitives := known }).freeze

private def primitiveSetText : Option (List String) → String
  | none => "None"
  | some [] => "frozenset()"
  | some names =>
    "frozenset(\x7b" ++ Text.joinWith ", " (names.map Text.quoted) ++ "\x7d)"

/-- What the log says about a store that has been built. -/
def builtRecord (s : Store) : LogRecord :=
  ⟨.debug, "sbprofile.core.params", s!"Parameter store built: {s.size} bound, primitives=" ++
    primitiveSetText s.sortedPrimitives⟩

end Store
end SandboxProfile
