import SandboxProfile.Parameter.Build
import SandboxProfile.Proofs.Parameter.Reached

/-! Built stores. A store that is built with a catalogue binds what was supplied and
every name that need not be supplied, and nothing else; its primitives are known if its
version is. -/
namespace SandboxProfile

theorem ParamKind.admits_bool_iff {setting : Option Setting} :
    ParamKind.bool.admits setting = true ↔ ∃ on, setting = some (.flag on) := by
  rcases setting with _ | on | i | s <;> simp [admits]

theorem ParamKind.admits_int_iff {setting : Option Setting} :
    ParamKind.int.admits setting = true ↔ ∃ i, setting = some (.number i) := by
  rcases setting with _ | on | i | s <;> simp [admits]

namespace Store

/-- What bindings leave of a store as it was, and the names that they add to it. -/
structure Filled (s t : Store) (names : List String) : Prop where
  catalogue : t.catalogue = s.catalogue
  primitives : t.primitives = s.primitives
  frozen : t.frozen = s.frozen
  names : t.parameters.map (·.name) = s.parameters.map (·.name) ++ names
  reached : s.Reached → t.Reached

theorem filled_of_bind {s t : Store} {name : String} {kind : ParamKind} {raw : Value}
    {p : Parameter} (bound : s.bind name kind raw = .ok (p, t)) : s.Filled t [name] := by
  have reached : s.Reached → t.Reached := fun before => before.bind bound
  obtain ⟨-, rfl, -, -, rfl⟩ := bind_eq_ok bound
  exact ⟨rfl, rfl, rfl, by simp, reached⟩

/-- By induction on the bindings, each of which adds its own name. -/
theorem filled_of_bindAll {s t : Store} {bindings : List (String × ParamKind × Value)}
    (filled : s.bindAll bindings = .ok t) : s.Filled t (bindings.map (·.1)) := by
  induction bindings generalizing s with
  | nil =>
    obtain rfl := Except.ok.inj filled
    exact ⟨rfl, rfl, rfl, by simp, id⟩
  | cons binding rest ih =>
    obtain ⟨name, kind, raw⟩ := binding
    rw [bindAll, List.foldlM_cons] at filled
    obtain ⟨u, first, others⟩ := Outcome.bind_eq_ok.mp filled
    obtain ⟨⟨p, _⟩, bound, rfl⟩ := Outcome.map_eq_ok.mp first
    have one := filled_of_bind bound
    have more := ih others
    refine ⟨more.catalogue.trans one.catalogue, more.primitives.trans one.primitives,
      more.frozen.trans one.frozen, ?_, more.reached ∘ one.reached⟩
    rw [more.names, one.names, List.map_cons, List.append_assoc, List.singleton_append]

variable {values : List (String × Value)} {c : Catalogue} {given : Option (List String)}
  {version : String} {s : Store}

/-- A store is built by binding the entries of the catalogue, then its primitives are
set if they are known, and then it is frozen. -/
theorem build_eq_ok (built : build values (some c) given version = .ok s) :
    ∃ t, (create (some c) none).Filled t ((c.filterMap (bindingFor values)).map (·.1)) ∧
      s = { t with primitives := given.or (t.derivedPrimitives version), frozen := true } := by
  obtain ⟨t, filled, built⟩ := Outcome.bind_eq_ok.mp built
  refine ⟨t, ?_, ?_⟩
  · simp only [fill] at filled
    split at filled
    · contradiction
    · exact filled_of_bindAll filled
  · obtain rfl := Except.ok.inj built
    cases given <;> rfl

theorem reached_of_build (built : build values (some c) given version = .ok s) : s.Reached := by
  obtain ⟨t, filled, rfl⟩ := build_eq_ok built
  have reached := filled.reached (.create _ _)
  have opened : t.frozen = false := filled.frozen
  have noneYet : t.primitives = none := filled.primitives
  cases given.or (t.derivedPrimitives version) with
  | none =>
    rw [← noneYet]
    exact reached.freeze
  | some known =>
    have set : t.setPrimitives known = .ok { t with primitives := some known } := by
      rw [setPrimitives, opened]
      rfl
    exact (reached.setPrimitives set).freeze

theorem catalogue_of_build (built : build values (some c) given version = .ok s) :
    s.catalogue = some c := by
  obtain ⟨t, filled, rfl⟩ := build_eq_ok built
  exact filled.catalogue

theorem isBound_iff_mem_names {s : Store} {name : String} :
    s.isBound name = true ↔ name ∈ s.parameters.map (·.name) := by
  simp [isBound, find?]

/-- Only a name that must be supplied can be unbound. -/
theorem isBound_of_optional (built : build values (some c) given version = .ok s) {name : String}
    {spec : ParameterSpec} (listed : c.find? name = some spec) (optional : spec.required = false) :
    s.isBound name = true := by
  obtain ⟨t, filled, rfl⟩ := build_eq_ok built
  have named : spec.name = name := by simpa using List.find?_some listed
  have member : spec ∈ c := List.mem_of_find?_eq_some listed
  have binds : ∃ binding, bindingFor values spec = some binding ∧ binding.1 = name := by
    unfold bindingFor
    cases values.lookup spec.name <;> simp [optional, named]
  obtain ⟨binding, chosen, rfl⟩ := binds
  rw [isBound_iff_mem_names]
  show _ ∈ t.parameters.map (·.name)
  rw [filled.names]
  refine List.mem_append_right _ (List.mem_map.mpr ⟨binding, ?_, rfl⟩)
  exact List.mem_filterMap.mpr ⟨spec, member, chosen⟩

theorem setting_of_find? {s : Store} {name : String} {p : Parameter} (found : s.find? name = some p) :
    s.setting name = .ok p.setting := by
  rw [setting_eq, found]
  rfl

theorem setting_of_unbound {s : Store} {name : String} (unbound : s.isBound name = false) :
    s.setting name = .error (.notBound name) := by
  have missing : s.find? name = none := by simpa [isBound] using unbound
  rw [setting_eq, missing]
  rfl

/-- What is bound has a setting that the catalogue admits. -/
theorem parameter_of_build (built : build values (some c) given version = .ok s) {name : String}
    {spec : ParameterSpec} (listed : c.find? name = some spec) (bound : s.isBound name = true) :
    ∃ p, s.find? name = some p ∧ spec.kind.admits p.setting = true := by
  obtain ⟨p, found⟩ := Option.isSome_iff_exists.mp bound
  have fits := (reached_of_build built).fits_of_find? found
  have named : p.name = name := by simpa using List.find?_some found
  obtain ⟨spec', listed', kind⟩ := fits.listed c (catalogue_of_build built)
  rw [named, listed] at listed'
  obtain rfl := Option.some.inj listed'
  exact ⟨p, found, kind ▸ fits.admitted⟩

theorem parameter_of_optional (built : build values (some c) given version = .ok s) {name : String}
    {spec : ParameterSpec} (listed : c.find? name = some spec) (optional : spec.required = false) :
    ∃ p, s.find? name = some p ∧ spec.kind.admits p.setting = true :=
  parameter_of_build built listed (isBound_of_optional built listed optional)

/-- Where the version is bound, the primitives are given or follow from it. -/
theorem primitives_of_build (built : build values (some c) given version = .ok s)
    {spec : ParameterSpec} (listed : c.find? version = some spec) (isInt : spec.kind = .int)
    (bound : s.isBound version = true) : ∃ known, s.primitives = some known := by
  obtain ⟨⟨name, kind, setting⟩, found, admitted⟩ := parameter_of_build built listed bound
  rw [isInt] at admitted
  obtain ⟨i, rfl⟩ : ∃ i, setting = some (.number i) := ParamKind.admits_int_iff.mp admitted
  obtain ⟨t, -, rfl⟩ := build_eq_ok built
  have foundThere : t.find? version = some ⟨name, kind, some (.number i)⟩ := found
  cases given with
  | some known => exact ⟨known, rfl⟩
  | none =>
    refine ⟨primitivesFor i, ?_⟩
    simp [derivedPrimitives, foundThere]

/-- If no primitives are given, they are those that the version has. -/
theorem primitives_of_build_derived {catalogue : Option Catalogue} {i : Int}
    (built : build values catalogue none version = .ok s)
    (number : s.setting version = .ok (some (.number i))) :
    s.primitives = some (primitivesFor i) := by
  obtain ⟨t, -, built⟩ := Outcome.bind_eq_ok.mp built
  obtain rfl := Except.ok.inj built
  obtain ⟨⟨name, kind, setting⟩, found, rfl⟩ := Outcome.map_eq_ok.mp number
  have foundThere : t.find? version = some ⟨name, kind, some (.number i)⟩ := by
    unfold get at found
    split at found
    · next p present => exact present.trans (congrArg some (Except.ok.inj found))
    · contradiction
  show t.derivedPrimitives version = some (primitivesFor i)
  simp [derivedPrimitives, foundThere]

theorem mem_primitivesFor_iff {primitive : String} {oldest i : Int}
    (listed : (primitive, oldest) ∈ primitiveVersions) :
    primitive ∈ primitivesFor i ↔ oldest ≤ i := by
  simp only [primitiveVersions, List.mem_cons, Prod.mk.injEq, List.not_mem_nil, or_false] at listed
  rcases listed with ⟨rfl, rfl⟩ | ⟨rfl, rfl⟩ | ⟨rfl, rfl⟩ | ⟨rfl, rfl⟩ <;>
    simp [primitivesFor, primitiveVersions]

theorem defines_iff_of_derived {primitive : String} {oldest i : Int}
    (listed : (primitive, oldest) ∈ primitiveVersions)
    (derived : s.primitives = some (primitivesFor i)) :
    s.defines primitive = .ok true ↔ oldest ≤ i := by
  rw [defines, derived, Except.ok.injEq, List.contains_eq_mem, decide_eq_true_eq,
    mem_primitivesFor_iff listed]

end Store
end SandboxProfile
