import SandboxProfile.Parameter.Catalogue
import SandboxProfile.Parameter.Coerce
import SandboxProfile.Text.Layout

/-! The parameter store of one compilation. It is filled once, each name at most
once, and is read-only after it has been frozen. -/
namespace SandboxProfile

structure Store where
  catalogue : Option Catalogue
  parameters : List Parameter
  /-- The operations that the target defines, if that is known. -/
  primitives : Option (List String)
  frozen : Bool
  deriving Repr, DecidableEq

namespace Store

def create (catalogue : Option Catalogue) (primitives : Option (List String)) : Store :=
  ⟨catalogue, [], primitives, false⟩

def size (s : Store) : Nat := s.parameters.length

def find? (s : Store) (name : String) : Option Parameter := s.parameters.find? (·.name == name)

def isBound (s : Store) (name : String) : Bool := (s.find? name).isSome

def get (s : Store) (name : String) : Except ParameterFault Parameter :=
  match s.find? name with
  | some p => .ok p
  | none => .error (.notBound name)

def setting (s : Store) (name : String) : Except ParameterFault (Option Setting) :=
  (s.get name).map (·.setting)

theorem setting_eq (s : Store) (name : String) : s.setting name =
    match (s.find? name).map (·.setting) with
    | some setting => .ok setting
    | none => .error (.notBound name) := by
  unfold setting get
  cases s.find? name <;> rfl

def isSet (s : Store) (name : String) : Except ParameterFault Bool :=
  (s.get name).map (·.isSet)

theorem isSet_eq (s : Store) (name : String) :
    s.isSet name = (s.setting name).map Option.isSome := by
  unfold isSet setting
  cases s.get name <;> rfl

def defines (s : Store) (primitive : String) : Except ParameterFault Bool :=
  match s.primitives with
  | none => .error (.primitivesUnknown primitive)
  | some known => .ok (known.contains primitive)

theorem defines_eq (s : Store) (primitive : String) : s.defines primitive =
    match s.primitives.map (·.contains primitive) with
    | some known => .ok known
    | none => .error (.primitivesUnknown primitive) := by
  unfold defines
  cases s.primitives <;> rfl

/-- Whether the catalogue, if there is one, lets a name be bound as a kind. -/
def checkCatalogue (s : Store) (name : String) (kind : ParamKind) : Except ParameterFault Unit :=
  match s.catalogue with
  | none => .ok ()
  | some c =>
    match c.find? name with
    | none => .error (.unknownName name)
    | some spec =>
      if spec.kind = kind then .ok () else .error (.kindConflict name spec.kind kind)

/-- Binds a name once. The store is unchanged when the binding is refused. -/
def bind (s : Store) (name : String) (kind : ParamKind) (raw : Value) :
    Except ParameterFault (Parameter × Store) := do
  if s.frozen then throw (.frozen name)
  s.checkCatalogue name kind
  if s.isBound name then throw (.alreadyBound name)
  let setting ← coerce name kind raw
  let p : Parameter := ⟨name, kind, setting⟩
  pure (p, { s with parameters := s.parameters ++ [p] })

/-- Binds a name as a kind that is given by its own name. -/
def bindNamed (s : Store) (name kind : String) (raw : Value) :
    Except ParameterFault (Parameter × Store) :=
  if s.frozen then .error (.frozen name)
  else
    match ParamKind.ofName? kind with
    | none => .error (.unknownKind kind)
    | some k => s.bind name k raw

def setPrimitives (s : Store) (primitives : List String) : Except ParameterFault Store :=
  if s.frozen then .error .primitivesFrozen
  else .ok { s with primitives := some primitives }

def freeze (s : Store) : Store := { s with frozen := true }

/-- Names and settings in the order of binding. -/
def settings (s : Store) : List (String × Option Setting) :=
  s.parameters.map fun p => (p.name, p.setting)

/-- The primitive set in sorted order, each name once. -/
def sortedPrimitives (s : Store) : Option (List String) := s.primitives.map Text.sortedDistinct

def summary (s : Store) : String :=
  s!"<ParameterStore {s.size} params, " ++ (if s.frozen then "frozen>" else "open>")

/-- A frozen store without a catalogue, filled in order. -/
def ofBindings (bindings : List (String × String × Value)) (primitives : Option (List String)) :
    Except ParameterFault Store := do
  let s ← bindings.foldlM (fun s (name, kind, raw) => (·.2) <$> s.bindNamed name kind raw)
    (create none primitives)
  pure s.freeze

end Store
end SandboxProfile
