import SandboxProfile.Proofs.Parameter.Reordering
import SandboxProfile.Proofs.Parameter.Run

/-! Stores that are built again. A setting is read back from the value that stands for it, and
that value is taken for the kind that the first one was taken for. So a store that has been built
is built again, as it is, from its own settings. -/
namespace SandboxProfile

/-! ### Settings as values -/

theorem coerceText_text {s : String} (name : String) (clean : hasNul s = false) :
    coerceText name (.text s) = .ok s := by
  simp [coerceText, clean]

theorem coercePath_text {s : String} (name : String) (clean : hasNul s = false)
    (absolute : isAbsolutePath s = true) (unquoted : hasDoubleQuote s = false) :
    coercePath name (.text s) = .ok s := by
  unfold coercePath
  dsimp only
  rw [coerceText_text name clean, Outcome.ok_bind]
  simp [absolute, unquoted]

theorem eq_of_coercePath {name s path : String} (coerced : coercePath name (.text s) = .ok path) :
    path = s := by
  unfold coercePath at coerced
  obtain ⟨t, text, coerced⟩ := Outcome.bind_eq_ok.mp coerced
  obtain rfl := Value.text.inj (coerceText_eq_ok text).1
  split at coerced
  · contradiction
  · split at coerced
    · contradiction
    · exact (Except.ok.inj coerced).symm

theorem ne_empty_of_isAbsolutePath {s : String} (absolute : isAbsolutePath s = true) : s ≠ "" := by
  rintro rfl
  contradiction

/-- What a kind admits is read back from the value that stands for it. -/
theorem coerce_toValue {kind : ParamKind} {setting : Option Setting} (name : String)
    (admitted : kind.admits setting = true) :
    coerce name kind (Setting.toValue setting) = .ok setting := by
  unfold ParamKind.admits at admitted
  split at admitted
  · rfl
  · rfl
  · next s =>
    have clean : hasNul s = false := by simpa using admitted
    simp [coerce, ParamKind.isOptional, Setting.toValue, coerceText_text name clean, Except.map]
  · next s =>
    simp only [Bool.and_eq_true, Bool.not_eq_eq_eq_not, Bool.not_true] at admitted
    obtain ⟨⟨clean, absolute⟩, unquoted⟩ := admitted
    simp [coerce, ParamKind.isOptional, Setting.toValue,
      coercePath_text name clean absolute unquoted, Except.map]
  · rfl
  · next s =>
    simp only [ne_eq, decide_not, Bool.and_eq_true, Bool.not_eq_eq_eq_not, Bool.not_true,
      decide_eq_false_iff_not] at admitted
    obtain ⟨given, clean⟩ := admitted
    simp [coerce, ParamKind.isOptional, readsUnset, Setting.toValue, given,
      coerceText_text name clean, Except.map]
  · rfl
  · next s =>
    simp only [Bool.and_eq_true, Bool.not_eq_eq_eq_not, Bool.not_true] at admitted
    obtain ⟨⟨clean, absolute⟩, unquoted⟩ := admitted
    simp [coerce, ParamKind.isOptional, readsUnset, Setting.toValue,
      ne_empty_of_isAbsolutePath absolute, coercePath_text name clean absolute unquoted, Except.map]
  · contradiction

/-- A text stays the text that it is. -/
theorem coerce_text {name s : String} {kind : ParamKind} {setting : Option Setting}
    (textual : kind = .string ∨ kind = .path) (coerced : coerce name kind (.text s) = .ok setting) :
    setting = some (.text s) := by
  rcases textual with rfl | rfl
  · obtain ⟨t, text, rfl⟩ := Outcome.map_eq_ok.mp coerced
    rw [Value.text.inj (coerceText_eq_ok text).1]
  · obtain ⟨path, text, rfl⟩ := Outcome.map_eq_ok.mp coerced
    rw [eq_of_coercePath text]

/-- Where no catalogue gives a kind, the value of a setting is taken for the kind that the value
was taken for from which the setting comes. -/
theorem inferKind_toValue {name : String} {raw : Value} {setting : Option Setting}
    (coerced : coerce name (inferKind raw) raw = .ok setting) :
    inferKind (Setting.toValue setting) = inferKind raw := by
  cases raw with
  | null =>
    obtain rfl := Except.ok.inj coerced
    rfl
  | bool b =>
    obtain rfl := Except.ok.inj coerced
    rfl
  | int i =>
    obtain rfl := Except.ok.inj coerced
    rfl
  | text s =>
    have textual : inferKind (.text s) = .string ∨ inferKind (.text s) = .path := by
      by_cases absolute : isAbsolutePath s = true
      · exact .inr (if_pos absolute)
      · exact .inl (if_neg absolute)
    rw [coerce_text textual coerced]
    rfl
  | path s =>
    by_cases absolute : isAbsolutePath s = true
    · have kind : inferKind (.path s) = .path := if_pos absolute
      rw [kind] at coerced ⊢
      obtain rfl : setting = some (.text s) := coerce_text (.inr rfl) coerced
      exact if_pos absolute
    · have kind : inferKind (.path s) = .string := if_neg absolute
      rw [kind] at coerced
      contradiction
  | _ => contradiction

/-- A parameter as a binding: as its kind, to the value that stands for its setting. -/
def Parameter.binding (p : Parameter) : String × ParamKind × Value :=
  (p.name, p.kind, Setting.toValue p.setting)

namespace Store
variable {values : List (String × Value)} {catalogue : Option Catalogue} {c : Catalogue}
  {version : String} {s t : Store}

/-- The settings of a store as values by name, in the order of binding. -/
def asValues (s : Store) : List (String × Value) :=
  s.settings.map fun (name, setting) => (name, Setting.toValue setting)

theorem asValues_eq (s : Store) :
    s.asValues = s.parameters.map fun p => (p.name, Setting.toValue p.setting) := by
  rw [asValues, settings, List.map_map]
  rfl

theorem lookup_asValues (s : Store) (name : String) :
    s.asValues.lookup name = (s.find? name).map fun p => Setting.toValue p.setting := by
  rw [asValues_eq, find?]
  induction s.parameters with
  | nil => rfl
  | cons p rest ih =>
    rw [List.map_cons, Table.lookup_cons_eq, ih, List.find?_cons, BEq.comm (a := name)]
    cases p.name == name <;> rfl

/-! ### Binding again -/

theorem bind_binding {name : String} {kind : ParamKind} {raw : Value} {p : Parameter}
    (bound : s.bind name kind raw = .ok (p, t)) :
    s.bind p.name p.kind (Setting.toValue p.setting) = .ok (p, t) := by
  obtain ⟨opened, checked, fresh, setting, coerced, rfl, rfl⟩ := bind_eq_ok_iff.mp bound
  exact bind_eq_ok_iff.mpr ⟨opened, checked, fresh, setting,
    coerce_toValue name (coerce_admits coerced), rfl, rfl⟩

/-- By induction on the bindings. The store in front of each is the same in both runs. -/
theorem bindAll_binding {bindings : List (String × ParamKind × Value)}
    (filled : s.bindAll bindings = .ok t) : ∃ added, t.parameters = s.parameters ++ added ∧
      s.bindAll (added.map Parameter.binding) = .ok t := by
  induction bindings generalizing s with
  | nil =>
    obtain rfl := Except.ok.inj filled
    exact ⟨[], (List.append_nil _).symm, rfl⟩
  | cons binding rest ih =>
    obtain ⟨name, kind, raw⟩ := binding
    rw [bindAll, List.foldlM_cons] at filled
    obtain ⟨_, first, behind⟩ := Outcome.bind_eq_ok.mp filled
    obtain ⟨⟨p, u⟩, bound, rfl⟩ := Outcome.map_eq_ok.mp first
    obtain ⟨added, parameters, again⟩ := ih behind
    have appended := (bind_eq_ok bound).2.2.2.2
    refine ⟨p :: added, ?_, Outcome.bind_eq_ok.mpr ⟨u, ?_, again⟩⟩
    · rw [parameters, appended, List.append_assoc, List.singleton_append]
    · exact Outcome.map_eq_ok.mpr ⟨(p, u), bind_binding bound, rfl⟩

/-- A new store is filled again with what it has been filled with. -/
theorem bindAll_create {bindings : List (String × ParamKind × Value)}
    (filled : (create catalogue none).bindAll bindings = .ok t) :
    (create catalogue none).bindAll (t.parameters.map Parameter.binding) = .ok t := by
  obtain ⟨added, parameters, again⟩ := bindAll_binding filled
  have whole : t.parameters = added := parameters
  rw [whole]
  exact again

/-! ### Filling again -/

/-- What holds of every parameter that one of the bindings can add holds of all parameters. -/
theorem forall_of_bindAll {bindings : List (String × ParamKind × Value)} {p : Parameter → Prop}
    (filled : (create catalogue none).bindAll bindings = .ok t)
    (each : ∀ name kind raw, (name, kind, raw) ∈ bindings → ∀ setting,
      coerce name kind raw = .ok setting → p ⟨name, kind, setting⟩) : ∀ q ∈ t.parameters, p q := by
  obtain ⟨added, parameters, rows⟩ := parameters_of_bindAll filled
  have whole : t.parameters = added := parameters
  rw [whole]
  clear filled parameters whole
  induction rows with
  | nil => exact List.forall_mem_nil p
  | @cons binding q rest others row _ ih =>
    obtain ⟨name, kind, raw⟩ := binding
    obtain ⟨_, _, setting⟩ := q
    obtain ⟨rfl, rfl, coerced⟩ := row
    refine List.forall_mem_cons.mpr ⟨each _ _ raw List.mem_cons_self setting coerced, ih ?_⟩
    exact fun name kind raw member => each name kind raw (List.mem_cons_of_mem _ member)

theorem fill_asValues_inferred (filled : fill values none = .ok t) :
    fill t.asValues none = .ok t := by
  have kinds : ∀ p ∈ t.parameters, inferKind (Setting.toValue p.setting) = p.kind := by
    refine forall_of_bindAll filled fun name kind raw member setting coerced => ?_
    obtain ⟨entry, -, same⟩ := List.mem_map.mp member
    obtain ⟨rfl, rfl, rfl⟩ : entry.1 = name ∧ inferKind entry.2 = kind ∧ entry.2 = raw := by
      simpa using same
    exact inferKind_toValue coerced
  have bindings : (t.asValues.map fun entry => (entry.1, inferKind entry.2, entry.2)) =
      t.parameters.map Parameter.binding := by
    rw [asValues_eq, List.map_map]
    refine List.map_congr_left fun p member => ?_
    show (p.name, inferKind (Setting.toValue p.setting), Setting.toValue p.setting) = p.binding
    rw [kinds p member]
    rfl
  show (create none none).bindAll
    (t.asValues.map fun entry => (entry.1, inferKind entry.2, entry.2)) = .ok t
  rw [bindings]
  exact bindAll_create filled

section Catalogue
variable (named : (c.map (·.name)).Nodup) (built : build values (some c) none version = .ok s)
include named built

/-- A name of the catalogue is bound if it was supplied or need not be. -/
theorem isBound_eq_binds {spec : ParameterSpec} (listed : spec ∈ c) :
    s.isBound spec.name = binds values spec := by
  have rows := (builtFrom_of_build built).parameters
  have names : (c.filter (binds values)).map (·.name) = s.parameters.map (·.name) := by
    rw [← List.forall₂_eq_eq_eq, List.forall₂_map_left_iff, List.forall₂_map_right_iff]
    exact rows.imp fun spec p row => row.1.symm
  rw [Bool.eq_iff_iff, isBound_iff_mem_names, ← names, List.mem_map]
  constructor
  · rintro ⟨other, chosen, same⟩
    obtain ⟨alsoListed, bound⟩ := List.mem_filter.mp chosen
    rwa [← List.inj_on_of_nodup_map named alsoListed listed same]
  · intro bound
    exact ⟨spec, List.mem_filter.mpr ⟨listed, bound⟩, rfl⟩

theorem binds_asValues {spec : ParameterSpec} (listed : spec ∈ c) :
    binds s.asValues spec = binds values spec := by
  have bound : (s.asValues.lookup spec.name).isSome = binds values spec := by
    rw [lookup_asValues, Option.isSome_map, ← isBound_eq_binds named built listed]
    rfl
  rw [binds, bound, binds]
  cases (values.lookup spec.name).isSome <;> cases spec.required <;> rfl

omit named in
theorem lookup_asValues_of_mem {p : Parameter} (member : p ∈ s.parameters) :
    s.asValues.lookup p.name = some (Setting.toValue p.setting) := by
  have found : s.find? p.name = some p :=
    Table.find?_of_mem (reached_of_build built).names_nodup member
  rw [lookup_asValues, found]
  rfl

theorem fill_asValues_listed : fill s.asValues (some c) =
    (create (some c) none).bindAll (s.parameters.map Parameter.binding) := by
  have inside : firstOutside c s.asValues = none := by
    rw [firstOutside_eq_none_iff, asValues_eq, List.forall_mem_map]
    intro p member
    obtain ⟨spec, listed, -⟩ := ((reached_of_build built).fits p member).listed c
      (catalogue_of_build built)
    rw [listed]
    rfl
  have chosen : c.filter (binds s.asValues) = c.filter (binds values) :=
    List.filter_congr fun spec listed => binds_asValues named built listed
  have rows := (List.forall₂_and_left s.parameters _).mpr
    ⟨fun _ member => member, (builtFrom_of_build built).parameters.flip⟩
  rw [fill_eq, inside, Option.elim_none, filterMap_bindingFor, chosen]
  congr 1
  rw [← List.forall₂_eq_eq_eq, List.forall₂_map_left_iff, List.forall₂_map_right_iff]
  refine rows.flip.imp ?_
  rintro spec p ⟨member, name, kind, -⟩
  rw [Parameter.binding, rawFor, ← name, lookup_asValues_of_mem built member, kind]
  rfl

end Catalogue

/-- A store that was built, its primitives being those that its version has, is built again from
its own settings: with the same names in the same order, the same kinds and settings, and the same
primitives. -/
theorem build_asValues (named : ∀ c ∈ catalogue, (c.map (·.name)).Nodup)
    (built : build values catalogue none version = .ok s) :
    build s.asValues catalogue none version = .ok s := by
  obtain ⟨t, filled, ended⟩ := Outcome.bind_eq_ok.mp built
  obtain rfl := Except.ok.inj ended
  refine Outcome.bind_eq_ok.mpr ⟨t, ?_, rfl⟩
  cases catalogue with
  | none => exact fill_asValues_inferred filled
  | some c =>
    rw [fill_asValues_listed (named c rfl) built]
    rw [fill_eq] at filled
    cases outside : firstOutside c values with
    | some name =>
      rw [outside] at filled
      contradiction
    | none =>
      rw [outside] at filled
      exact bindAll_create filled

/-- Texts for a number and a toggle, a path, and nothing for an optional parameter. Two names that
must be supplied are not. -/
def roughValues : List (String × Value) :=
  [("PROFILE_DIR", .path "/p"), ("DEBUG_WRITE_DIR", .text ""), ("SHOULD_LOG", .text "true"),
    (versionParameter, .text " 1013 ")]

/-- What becomes of them without a catalogue. -/
def inferredStore : Store where
  catalogue := none
  parameters := [⟨"PROFILE_DIR", .path, some (.text "/p")⟩,
    ⟨"DEBUG_WRITE_DIR", .string, some (.text "")⟩, ⟨"SHOULD_LOG", .string, some (.text "true")⟩,
    ⟨versionParameter, .string, some (.text " 1013 ")⟩]
  primitives := none
  frozen := true

theorem build_asValues_rough :
    (∀ c ∈ some contentParameters, (c.map (·.name)).Nodup) ∧
    (∃ s, build roughValues (some contentParameters) none versionParameter = .ok s ∧
      s.isBound "HOME_PATH" = false ∧ s.setting "DEBUG_WRITE_DIR" = .ok none ∧
      s.asValues.lookup versionParameter = some (.int 1013) ∧
      s.primitives = some (primitivesFor 1013) ∧
      build s.asValues (some contentParameters) none versionParameter = .ok s) ∧
    build roughValues none none versionParameter = .ok inferredStore ∧
    build inferredStore.asValues none none versionParameter = .ok inferredStore := by
  have named : ∀ c ∈ some contentParameters, (c.map (·.name)).Nodup := by
    rintro c ⟨⟩
    decide
  have inferred : build roughValues none none versionParameter = .ok inferredStore := rfl
  refine ⟨named, ⟨_, rfl, rfl, rfl, rfl, rfl, ?_⟩, inferred, build_asValues (by simp) inferred⟩
  exact build_asValues named
    (show build roughValues (some contentParameters) none versionParameter = .ok _ from rfl)

end Store
end SandboxProfile
