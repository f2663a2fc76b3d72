import SandboxProfile.Proofs.Forecast
import SandboxProfile.Proofs.Parameter.Built

/-! Outlooks: what is known of the parameters before a store is filled. A catalogue gives
one, since it fixes the kinds of the settings and what need not be supplied. -/
namespace SandboxProfile

/-- What is known of a parameter. -/
inductive Shape where
  | unknown
  | unbound
  | number
  | flag (told : Option Bool)
  | text
  | optionalText
  | unset
  deriving Repr, DecidableEq

/-- The answers of a store about a parameter that are as its shape says. -/
inductive Shape.Allows (name : String) : Shape → Except ParameterFault (Option Setting) → Prop where
  | unknown (answer : Except ParameterFault (Option Setting)) : Allows name .unknown answer
  | unbound : Allows name .unbound (.error (.notBound name))
  | number (i : Int) : Allows name .number (.ok (some (.number i)))
  | flag {told : Option Bool} {on : Bool} : Tells told on →
      Allows name (.flag told) (.ok (some (.flag on)))
  | text (s : String) : Allows name .text (.ok (some (.text s)))
  | given (s : String) : Allows name .optionalText (.ok (some (.text s)))
  | notGiven : Allows name .optionalText (.ok none)
  | unset : Allows name .unset (.ok none)

/-- What is known of a store: the shapes of its parameters, and whether its primitives
are known. -/
structure Outlook where
  shape : String → Shape
  primitives : Bool

structure Outlook.Covers (o : Outlook) (s : Store) : Prop where
  shape : ∀ name, (o.shape name).Allows name (s.setting name)
  primitives : o.primitives = true → ∃ known, s.primitives = some known

/-- What the kind of a parameter tells of its setting. -/
def Shape.ofKind : ParamKind → Shape
  | .bool => .flag none
  | .int => .number
  | .string | .path => .text
  | .optionalString | .optionalPath => .optionalText

theorem Shape.allows_of_admits {name : String} {kind : ParamKind} {setting : Option Setting}
    (admitted : kind.admits setting = true) : (ofKind kind).Allows name (.ok setting) := by
  unfold ParamKind.admits at admitted
  split at admitted
  · exact .flag (by simp [Tells])
  · exact .number _
  · exact .text _
  · exact .text _
  · exact .notGiven
  · exact .given _
  · exact .notGiven
  · exact .given _
  · contradiction

namespace Outlook

def shapeIn (c : Catalogue) (bound : List String) (name : String) : Shape :=
  match c.find? name with
  | some spec => if spec.required && !bound.contains name then .unknown else .ofKind spec.kind
  | none => .unknown

/-- What a catalogue tells of the stores that are built with it and bind the given
names. The other names that must be supplied may be bound or not. -/
def ofCatalogue (c : Catalogue) (bound : List String) (primitives : Bool) : Outlook :=
  ⟨shapeIn c bound, primitives⟩

/-- An outlook with more known about one parameter. -/
def assume (o : Outlook) (name : String) (shape : Shape) : Outlook where
  shape n := if n = name then shape else o.shape n
  primitives := o.primitives

theorem covers_of_build {values : List (String × Value)} {c : Catalogue}
    {given : Option (List String)} {version : String} {s : Store} {names : List String}
    {primitives : Bool} (built : Store.build values (some c) given version = .ok s)
    (bound : ∀ name ∈ names, s.isBound name = true)
    (known : primitives = true → ∃ known, s.primitives = some known) :
    (ofCatalogue c names primitives).Covers s := by
  refine ⟨fun name => ?_, known⟩
  show (shapeIn c names name).Allows name (s.setting name)
  unfold shapeIn
  cases listed : c.find? name with
  | none => exact .unknown _
  | some spec =>
    by_cases undecided : (spec.required && !names.contains name) = true
    · simp only [undecided, ↓reduceIte]
      exact .unknown _
    · have isBound : s.isBound name = true := by
        cases required : spec.required with
        | false => exact Store.isBound_of_optional built listed required
        | true => exact bound name (by simpa [required] using undecided)
      obtain ⟨p, found, admitted⟩ := Store.parameter_of_build built listed isBound
      simp only [undecided, Bool.false_eq_true, ↓reduceIte, Store.setting_of_find? found]
      exact Shape.allows_of_admits admitted

theorem Covers.assume {o : Outlook} {s : Store} (covers : o.Covers s) {name : String}
    {shape : Shape} (allowed : shape.Allows name (s.setting name)) :
    (o.assume name shape).Covers s := by
  refine ⟨fun n => ?_, covers.primitives⟩
  by_cases same : n = name
  · simpa only [Outlook.assume, same, ↓reduceIte] using allowed
  · simpa only [Outlook.assume, same, ↓reduceIte] using covers.shape n

end Outlook

end SandboxProfile
