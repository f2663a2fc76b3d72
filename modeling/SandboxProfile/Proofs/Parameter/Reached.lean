import SandboxProfile.Parameter.Store
import SandboxProfile.Proofs.Outcome

/-! Runs of a parameter store. Whatever calls lead to a store, every setting in it is
one that the kind of its parameter admits, and a catalogue has been followed. -/
namespace SandboxProfile

theorem coerceText_eq_ok {name s : String} {raw : Value} (coerced : coerceText name raw = .ok s) :
    raw = .text s ∧ hasNul s = false := by
  unfold coerceText at coerced
  split at coerced
  · split at coerced
    · contradiction
    · next clean =>
      obtain rfl := Except.ok.inj coerced
      exact ⟨rfl, by simpa using clean⟩
  · contradiction

theorem coercePath_eq_ok {name s : String} {raw : Value} (coerced : coercePath name raw = .ok s) :
    hasNul s = false ∧ isAbsolutePath s = true ∧ hasDoubleQuote s = false := by
  unfold coercePath at coerced
  obtain ⟨path, text, coerced⟩ := Outcome.bind_eq_ok.mp coerced
  have clean := (coerceText_eq_ok text).2
  split at coerced
  · contradiction
  · next absolute =>
    split at coerced
    · contradiction
    · next unquoted =>
      obtain rfl := Except.ok.inj coerced
      exact ⟨clean, by simpa using absolute, by simpa using unquoted⟩

/-- Coercion gives settings of the kind only. -/
theorem coerce_admits {name : String} {kind : ParamKind} {raw : Value} {setting : Option Setting}
    (coerced : coerce name kind raw = .ok setting) : kind.admits setting = true := by
  unfold coerce at coerced
  split at coerced
  · next unset =>
    obtain rfl := Except.ok.inj coerced
    cases kind <;> simp_all [ParamKind.isOptional, ParamKind.admits]
  · next given =>
    split at coerced
    · contradiction
    · cases kind with
      | bool =>
        obtain ⟨b, -, rfl⟩ := Outcome.map_eq_ok.mp coerced
        rfl
      | int =>
        obtain ⟨i, -, rfl⟩ := Outcome.map_eq_ok.mp coerced
        rfl
      | string =>
        obtain ⟨s, text, rfl⟩ := Outcome.map_eq_ok.mp coerced
        simp [ParamKind.admits, coerceText_eq_ok text]
      | optionalString =>
        obtain ⟨s, text, rfl⟩ := Outcome.map_eq_ok.mp coerced
        obtain ⟨rfl, clean⟩ := coerceText_eq_ok text
        have nonempty : s ≠ "" := by simpa [ParamKind.isOptional, readsUnset] using given
        simp [ParamKind.admits, clean, nonempty]
      | path =>
        obtain ⟨s, text, rfl⟩ := Outcome.map_eq_ok.mp coerced
        simp [ParamKind.admits, coercePath_eq_ok text]
      | optionalPath =>
        obtain ⟨s, text, rfl⟩ := Outcome.map_eq_ok.mp coerced
        simp [ParamKind.admits, coercePath_eq_ok text]

namespace Store

/-- The stores that calls lead to from a new one. A call that is refused leaves the
store as it is, so it leads nowhere. -/
inductive Reached : Store → Prop where
  | create (catalogue : Option Catalogue) (primitives : Option (List String)) :
      Reached (create catalogue primitives)
  | bind {s t : Store} {name : String} {kind : ParamKind} {raw : Value} {p : Parameter} :
      Reached s → s.bind name kind raw = .ok (p, t) → Reached t
  | setPrimitives {s t : Store} {primitives : List String} :
      Reached s → s.setPrimitives primitives = .ok t → Reached t
  | freeze {s : Store} : Reached s → Reached s.freeze

theorem checkCatalogue_eq_ok {s : Store} {name : String} {kind : ParamKind} {c : Catalogue}
    (listed : s.catalogue = some c) (checked : s.checkCatalogue name kind = .ok ()) :
    ∃ spec, c.find? name = some spec ∧ spec.kind = kind := by
  simp only [checkCatalogue, listed] at checked
  cases found : c.find? name with
  | none => simp [found] at checked
  | some spec =>
    by_cases same : spec.kind = kind
    · exact ⟨spec, rfl, same⟩
    · simp [found, same] at checked

/-- A binding is accepted if the store is open, the catalogue allows it, the name is not
bound and the raw value can be coerced. It adds one parameter. -/
theorem bind_eq_ok_iff {s t : Store} {name : String} {kind : ParamKind} {raw : Value}
    {p : Parameter} : s.bind name kind raw = .ok (p, t) ↔
      s.frozen = false ∧ s.checkCatalogue name kind = .ok () ∧ s.isBound name = false ∧
        ∃ setting, coerce name kind raw = .ok setting ∧ ⟨name, kind, setting⟩ = p ∧
          { s with parameters := s.parameters ++ [p] } = t := by
  constructor
  · intro bound
    unfold bind at bound
    cases frozen : s.frozen with
    | true => simp [frozen, throw, throwThe, MonadExceptOf.throw] at bound
    | false =>
      simp only [frozen, Bool.false_eq_true, ↓reduceIte] at bound
      obtain ⟨_, checked, bound⟩ := Outcome.bind_eq_ok.mp bound
      cases again : s.isBound name with
      | true => simp [again, throw, throwThe, MonadExceptOf.throw] at bound
      | false =>
        simp only [again, Bool.false_eq_true, ↓reduceIte] at bound
        obtain ⟨setting, coerced, bound⟩ := Outcome.bind_eq_ok.mp bound
        obtain ⟨same, rfl⟩ := Prod.mk.inj (Except.ok.inj bound)
        exact ⟨rfl, checked, rfl, setting, coerced, same, by rw [← same]⟩
  · rintro ⟨opened, checked, fresh, setting, coerced, rfl, rfl⟩
    simp only [bind, opened, checked, fresh, coerced, Bool.false_eq_true, ↓reduceIte]
    rfl

theorem bind_eq_ok {s t : Store} {name : String} {kind : ParamKind} {raw : Value} {p : Parameter}
    (bound : s.bind name kind raw = .ok (p, t)) :
    s.checkCatalogue name kind = .ok () ∧ p.name = name ∧ p.kind = kind ∧
      kind.admits p.setting = true ∧ t = { s with parameters := s.parameters ++ [p] } := by
  obtain ⟨-, checked, -, setting, coerced, rfl, rfl⟩ := bind_eq_ok_iff.mp bound
  exact ⟨checked, rfl, rfl, coerce_admits coerced, rfl⟩

theorem setPrimitives_eq_ok {s t : Store} {primitives : List String}
    (changed : s.setPrimitives primitives = .ok t) :
    t = { s with primitives := some primitives } := by
  unfold setPrimitives at changed
  split at changed
  · contradiction
  · exact (Except.ok.inj changed).symm

/-- What is known of a parameter in a store: its setting is one of its kind, and its
kind is the one that the catalogue gives for its name. -/
structure Fits (catalogue : Option Catalogue) (p : Parameter) : Prop where
  admitted : p.kind.admits p.setting = true
  listed : ∀ c, catalogue = some c → ∃ spec, c.find? p.name = some spec ∧ spec.kind = p.kind

theorem fits_of_bind {s t : Store} {name : String} {kind : ParamKind} {raw : Value} {p : Parameter}
    (bound : s.bind name kind raw = .ok (p, t)) : Fits s.catalogue p := by
  obtain ⟨checked, rfl, rfl, admitted, -⟩ := bind_eq_ok bound
  exact ⟨admitted, fun c followed => checkCatalogue_eq_ok followed checked⟩

/-- By induction on the run; only a binding adds a parameter, and it checks it. -/
theorem Reached.fits {s : Store} (reached : s.Reached) :
    ∀ p ∈ s.parameters, Fits s.catalogue p := by
  induction reached with
  | create catalogue primitives =>
    intro p member
    contradiction
  | bind _ bound ih =>
    have fits := fits_of_bind bound
    obtain ⟨-, -, -, -, rfl⟩ := bind_eq_ok bound
    intro q member
    rcases List.mem_append.mp member with old | new
    · exact ih q old
    · rwa [List.mem_singleton.mp new]
  | setPrimitives _ changed ih =>
    rw [setPrimitives_eq_ok changed]
    exact ih
  | freeze _ ih => exact ih

theorem Reached.fits_of_find? {s : Store} (reached : s.Reached) {name : String} {p : Parameter}
    (found : s.find? name = some p) : Fits s.catalogue p :=
  reached.fits p (List.mem_of_find?_eq_some found)

end Store
end SandboxProfile
