import SandboxProfile.Proofs.Parameter.Built
import SandboxProfile.Proofs.Parameter.Refusal
import SandboxProfile.Proofs.Table
import Mathlib.Data.List.Forall2

/-! The order in which values are supplied. A store is built along its catalogue, which asks for
each value by its name, so that the order of the values can matter only where several names are
outside the catalogue: the first of them is reported, and that before any value is read. -/
namespace SandboxProfile

namespace Store
variable {values others : List (String × Value)} {c : Catalogue} {given : Option (List String)}
  {version : String} {s t : Store}

/-- The first name that is supplied and not in the catalogue. -/
def firstOutside (c : Catalogue) (values : List (String × Value)) : Option String :=
  (values.map (·.1)).find? fun name => (c.find? name).isNone

/-- Whether a name of the catalogue is bound: it is supplied, or need not be. -/
def binds (values : List (String × Value)) (spec : ParameterSpec) : Bool :=
  (values.lookup spec.name).isSome || !spec.required

/-- What a name of the catalogue is bound to. -/
def rawFor (values : List (String × Value)) (spec : ParameterSpec) : Value :=
  (values.lookup spec.name).getD spec.fallback

/-- A store that is built from values: it binds the names of the catalogue that are supplied or not
required, in the order and as the kinds of the catalogue, to the values that are supplied or that
stand in for them. -/
structure BuiltFrom (values : List (String × Value)) (c : Catalogue)
    (given : Option (List String)) (version : String) (s : Store) : Prop where
  catalogue : s.catalogue = some c
  frozen : s.frozen = true
  parameters : List.Forall₂ (fun spec p => p.name = spec.name ∧ p.kind = spec.kind ∧
    coerce spec.name spec.kind (rawFor values spec) = .ok p.setting)
    (c.filter (binds values)) s.parameters
  primitives : s.primitives = given.or (s.derivedPrimitives version)

/-! ### What is bound -/

theorem bindingFor_eq (values : List (String × Value)) (spec : ParameterSpec) :
    bindingFor values spec =
      if binds values spec then some (spec.name, spec.kind, rawFor values spec) else none := by
  unfold bindingFor binds rawFor
  cases values.lookup spec.name with
  | some raw => rfl
  | none => cases spec.required <;> rfl

theorem filterMap_bindingFor (values : List (String × Value)) (c : Catalogue) :
    c.filterMap (bindingFor values) =
      (c.filter (binds values)).map fun spec => (spec.name, spec.kind, rawFor values spec) := by
  induction c with
  | nil => rfl
  | cons spec rest ih =>
    cases bound : binds values spec with
    | true =>
      have here : bindingFor values spec = some (spec.name, spec.kind, rawFor values spec) := by
        rw [bindingFor_eq, if_pos bound]
      rw [List.filterMap_cons_some here, List.filter_cons_of_pos bound, List.map_cons, ih]
    | false =>
      have missing : ¬binds values spec = true := Bool.eq_false_iff.mp bound
      have here : bindingFor values spec = none := by rw [bindingFor_eq, if_neg missing]
      rw [List.filterMap_cons_none here, List.filter_cons_of_neg missing, ih]

/-- By induction on the bindings, each of which adds its own parameter. -/
theorem parameters_of_bindAll {bindings : List (String × ParamKind × Value)}
    (filled : s.bindAll bindings = .ok t) : ∃ added, t.parameters = s.parameters ++ added ∧
      List.Forall₂ (fun (binding : String × ParamKind × Value) p => p.name = binding.1 ∧
        p.kind = binding.2.1 ∧ coerce binding.1 binding.2.1 binding.2.2 = .ok p.setting)
        bindings added := by
  induction bindings generalizing s with
  | nil =>
    obtain rfl := Except.ok.inj filled
    exact ⟨[], (List.append_nil _).symm, .nil⟩
  | cons binding rest ih =>
    obtain ⟨name, kind, raw⟩ := binding
    rw [bindAll, List.foldlM_cons] at filled
    obtain ⟨u, first, behind⟩ := Outcome.bind_eq_ok.mp filled
    obtain ⟨⟨p, _⟩, bound, rfl⟩ := Outcome.map_eq_ok.mp first
    obtain ⟨-, -, -, setting, coerced, rfl, rfl⟩ := bind_eq_ok_iff.mp bound
    obtain ⟨added, parameters, rows⟩ := ih behind
    refine ⟨⟨name, kind, setting⟩ :: added, ?_, .cons ⟨rfl, rfl, coerced⟩ rows⟩
    rw [parameters, List.append_assoc, List.singleton_append]

/-- Nothing but coercion hinders bindings of new names, each as the kind that the catalogue has for
it. By induction on the bindings; each leaves the names behind it new. -/
theorem exists_bindAll_iff {bindings : List (String × ParamKind × Value)}
    (opened : s.frozen = false)
    (allowed : ∀ binding ∈ bindings, s.checkCatalogue binding.1 binding.2.1 = .ok ())
    (new : (s.parameters.map (·.name) ++ bindings.map (·.1)).Nodup) :
    (∃ t, s.bindAll bindings = .ok t) ↔
      ∀ binding ∈ bindings, ∃ setting, coerce binding.1 binding.2.1 binding.2.2 = .ok setting := by
  induction bindings generalizing s with
  | nil => exact ⟨fun _ => List.forall_mem_nil _, fun _ => ⟨s, rfl⟩⟩
  | cons binding rest ih =>
    obtain ⟨name, kind, raw⟩ := binding
    obtain ⟨checked, otherChecks⟩ := List.forall_mem_cons.mp allowed
    have unbound : s.isBound name = false := by
      rw [Bool.eq_false_iff, ne_eq, isBound_iff_mem_names]
      intro bound
      exact (List.nodup_append.mp new).2.2 name bound name List.mem_cons_self rfl
    have binds (setting : Option Setting) (coerced : coerce name kind raw = .ok setting) :=
      bind_eq_ok_iff.mpr ⟨opened, checked, unbound, setting, coerced, rfl, rfl⟩
    have later (setting : Option Setting) :=
      ih (s := { s with parameters := s.parameters ++ [⟨name, kind, setting⟩] }) opened otherChecks
        (by simpa using new)
    rw [List.forall_mem_cons, bindAll, List.foldlM_cons]
    constructor
    · rintro ⟨t, filled⟩
      obtain ⟨u, first, behind⟩ := Outcome.bind_eq_ok.mp filled
      obtain ⟨⟨p, _⟩, bound, rfl⟩ := Outcome.map_eq_ok.mp first
      obtain ⟨-, -, -, setting, coerced, rfl, rfl⟩ := bind_eq_ok_iff.mp bound
      exact ⟨⟨setting, coerced⟩, (later setting).mp ⟨t, behind⟩⟩
    · rintro ⟨⟨setting, coerced⟩, others⟩
      obtain ⟨t, behind⟩ := (later setting).mpr others
      refine ⟨t, Outcome.bind_eq_ok.mpr ⟨_, ?_, behind⟩⟩
      exact Outcome.map_eq_ok.mpr ⟨_, binds setting coerced, rfl⟩

/-! ### What is reported -/

theorem fill_eq (values : List (String × Value)) (c : Catalogue) : fill values (some c) =
    (firstOutside c values).elim
      ((create (some c) none).bindAll (c.filterMap (bindingFor values)))
      fun name => .error (.unknownName name) := by
  rw [firstOutside, List.find?_map, fill]
  split
  · next name raw found =>
    have first : values.find? ((fun name => (c.find? name).isNone) ∘ (·.1)) = some (name, raw) :=
      found
    rw [first]
    rfl
  · next missing =>
    have none : values.find? ((fun name => (c.find? name).isNone) ∘ (·.1)) = none := missing
    rw [none]
    rfl

theorem checkCatalogue_ne_unknownName {name other : String} {kind : ParamKind}
    (follows : s.catalogue = some c) (listed : (c.find? name).isSome = true) :
    s.checkCatalogue name kind ≠ .error (.unknownName other) := by
  obtain ⟨spec, found⟩ := Option.isSome_iff_exists.mp listed
  rw [checkCatalogue, follows]
  dsimp only
  rw [found]
  dsimp only
  intro failed
  split at failed
  · cases failed
  · cases failed

/-- A name of the catalogue is not refused as one that the catalogue does not have. -/
theorem bind_ne_unknownName {name other : String} {kind : ParamKind} {raw : Value}
    (follows : s.catalogue = some c) (listed : (c.find? name).isSome = true) :
    s.bind name kind raw ≠ .error (.unknownName other) := by
  intro failed
  unfold bind at failed
  cases frozen : s.frozen with
  | true => simp [frozen, throw, throwThe, MonadExceptOf.throw] at failed
  | false =>
    simp only [frozen, Bool.false_eq_true, ↓reduceIte] at failed
    rcases Outcome.bind_eq_error.mp failed with unlisted | ⟨_, -, failed⟩
    · exact checkCatalogue_ne_unknownName follows listed unlisted
    · cases again : s.isBound name with
      | true => simp [again, throw, throwThe, MonadExceptOf.throw] at failed
      | false =>
        simp only [again, Bool.false_eq_true, ↓reduceIte] at failed
        rcases Outcome.bind_eq_error.mp failed with uncoerced | ⟨_, -, failed⟩
        · rcases coerce_eq_error uncoerced with ⟨family, -⟩ | ⟨-, -, -, same⟩
          · cases family
          · cases same
        · cases failed

/-- By induction on the bindings. -/
theorem bindAll_ne_unknownName {other : String} {bindings : List (String × ParamKind × Value)}
    (follows : s.catalogue = some c)
    (listed : ∀ binding ∈ bindings, (c.find? binding.1).isSome = true) :
    s.bindAll bindings ≠ .error (.unknownName other) := by
  induction bindings generalizing s with
  | nil => nofun
  | cons binding rest ih =>
    obtain ⟨here, others⟩ := List.forall_mem_cons.mp listed
    rw [bindAll, List.foldlM_cons]
    intro failed
    rcases Outcome.bind_eq_error.mp failed with first | ⟨t, first, behind⟩
    · exact bind_ne_unknownName follows here (Outcome.map_eq_error.mp first)
    · obtain ⟨⟨p, _⟩, bound, rfl⟩ := Outcome.map_eq_ok.mp first
      exact ih ((filled_of_bind bound).catalogue.trans follows) others behind

theorem build_of_outside {name : String} (outside : firstOutside c values = some name) :
    build values (some c) given version = .error (.unknownName name) := by
  rw [build, fill_eq, outside]
  rfl

/-- A name is reported as unknown only if it is the first one outside the catalogue. -/
theorem build_eq_unknownName_iff {name : String} :
    build values (some c) given version = .error (.unknownName name) ↔
      firstOutside c values = some name := by
  constructor
  · intro failed
    cases outside : firstOutside c values with
    | some first =>
      rw [build_of_outside outside] at failed
      cases failed
      rfl
    | none =>
      rcases Outcome.bind_eq_error.mp failed with unfilled | ⟨t, -, failed⟩
      · rw [fill_eq, outside, Option.elim_none, filterMap_bindingFor] at unfilled
        refine absurd unfilled (bindAll_ne_unknownName rfl fun binding member => ?_)
        obtain ⟨spec, chosen, rfl⟩ := List.mem_map.mp member
        have present : spec ∈ c := List.mem_of_mem_filter chosen
        exact List.find?_isSome.mpr ⟨spec, present, beq_self_eq_true _⟩
      · contradiction
  · exact build_of_outside

/-! ### Two orders -/

theorem builtFrom_of_build (built : build values (some c) given version = .ok s) :
    BuiltFrom values c given version s := by
  have inside : firstOutside c values = none := by
    cases outside : firstOutside c values with
    | none => rfl
    | some name =>
      rw [build_of_outside outside] at built
      contradiction
  obtain ⟨t, filled, ended⟩ := Outcome.bind_eq_ok.mp built
  obtain rfl := Except.ok.inj ended
  rw [fill_eq, inside, Option.elim_none] at filled
  have follows := (filled_of_bindAll filled).catalogue
  obtain ⟨added, parameters, rows⟩ := parameters_of_bindAll filled
  rw [filterMap_bindingFor, List.forall₂_map_left_iff] at rows
  have same : t.parameters = added := parameters
  refine ⟨follows, rfl, same ▸ rows, ?_⟩
  cases given <;> rfl

theorem firstOutside_eq_none_iff :
    firstOutside c values = none ↔ ∀ entry ∈ values, (c.find? entry.1).isSome = true := by
  simp [firstOutside, List.find?_eq_none, Option.isSome_iff_ne_none]

theorem inside_of_perm (reordered : values.Perm others) (inside : firstOutside c values = none) :
    firstOutside c others = none := by
  rw [firstOutside_eq_none_iff] at inside ⊢
  exact fun entry member => inside entry (reordered.mem_iff.mpr member)

theorem fill_eq_of_perm (reordered : values.Perm others) (distinct : (values.map (·.1)).Nodup)
    (inside : firstOutside c values = none) : fill values (some c) = fill others (some c) := by
  have alsoInside := inside_of_perm reordered inside
  have same : bindingFor values = bindingFor others := by
    funext spec
    unfold bindingFor
    rw [Table.lookup_eq_of_perm reordered distinct]
  rw [fill_eq, fill_eq, inside, alsoInside, same]

theorem exists_fill_iff (named : (c.map (·.name)).Nodup) :
    (∃ s, fill values (some c) = .ok s) ↔ (∀ entry ∈ values, (c.find? entry.1).isSome = true) ∧
      ∀ spec ∈ c, binds values spec = true →
        ∃ setting, coerce spec.name spec.kind (rawFor values spec) = .ok setting := by
  rw [← firstOutside_eq_none_iff, fill_eq]
  cases outside : firstOutside c values with
  | some name => simp
  | none =>
    have allowed : ∀ binding ∈ (c.filter (binds values)).map fun spec =>
        (spec.name, spec.kind, rawFor values spec),
        (create (some c) none).checkCatalogue binding.1 binding.2.1 = .ok () := by
      intro binding member
      obtain ⟨spec, chosen, rfl⟩ := List.mem_map.mp member
      have found : c.find? spec.name = some spec :=
        Table.find?_of_mem named (List.mem_of_mem_filter chosen)
      simp [checkCatalogue, create, found]
    have new : (((create (some c) none).parameters.map (·.name)) ++
        ((c.filter (binds values)).map fun spec =>
          (spec.name, spec.kind, rawFor values spec)).map (·.1)).Nodup := by
      rw [List.map_map]
      exact named.sublist (List.filter_sublist.map _)
    rw [Option.elim_none, filterMap_bindingFor, exists_bindAll_iff rfl allowed new]
    simp only [List.forall_mem_map, List.mem_filter, and_imp, true_and]

theorem exists_build_iff : (∃ s, build values (some c) given version = .ok s) ↔
    ∃ s, fill values (some c) = .ok s := by
  constructor
  · rintro ⟨s, built⟩
    obtain ⟨t, filled, -⟩ := Outcome.bind_eq_ok.mp built
    exact ⟨t, filled⟩
  · rintro ⟨t, filled⟩
    rw [build, filled]
    exact ⟨_, rfl⟩

/-- What the order of values leaves as it is, and what is reported before a value is read. -/
structure BuiltAlike (c : Catalogue) (given : Option (List String)) (version : String)
    (values others : List (String × Value)) : Prop where
  /-- One store is built, or both builds fail with faults of one family; there is one fault if the
  catalogue has all names. -/
  agree : Agree (fun e f => e.family = f.family ∧
      ((∀ entry ∈ values, (c.find? entry.1).isSome = true) → e = f))
    (fun s t => s = t ∧ BuiltFrom values c given version s)
    (build values (some c) given version) (build others (some c) given version)
  /-- A store is built exactly if the catalogue has all names and what it binds them to is of their
  kinds. -/
  builds : (c.map (·.name)).Nodup → ((∃ s, build values (some c) given version = .ok s) ↔
    (∀ entry ∈ values, (c.find? entry.1).isSome = true) ∧
      ∀ spec ∈ c, binds values spec = true →
        ∃ setting, coerce spec.name spec.kind (rawFor values spec) = .ok setting)
  /-- The first name outside the catalogue is reported, and no name else is reported so. -/
  reported : ∀ name, build values (some c) given version = .error (.unknownName name) ↔
    firstOutside c values = some name
  /-- It is reported whatever the values are. -/
  unread : ∀ (raws : List (String × Value)) (name : String),
    raws.map (·.1) = values.map (·.1) → firstOutside c values = some name →
      build raws (some c) given version = .error (.unknownName name)

theorem build_reordered (reordered : values.Perm others) (distinct : (values.map (·.1)).Nodup) :
    BuiltAlike c given version values others where
  agree := by
    cases outside : firstOutside c values with
    | none =>
      have same : build values (some c) given version = build others (some c) given version := by
        rw [build, build, fill_eq_of_perm reordered distinct outside]
      rw [← same]
      cases built : build values (some c) given version with
      | ok s => exact .ok ⟨rfl, builtFrom_of_build built⟩
      | error e => exact .error ⟨rfl, fun _ => rfl⟩
    | some name =>
      cases alsoOutside : firstOutside c others with
      | none =>
        rw [inside_of_perm reordered.symm alsoOutside] at outside
        contradiction
      | some other =>
        rw [build_of_outside outside, build_of_outside alsoOutside]
        refine .error ⟨rfl, fun inside => ?_⟩
        rw [firstOutside_eq_none_iff.mpr inside] at outside
        contradiction
  builds := fun named => exists_build_iff.trans (exists_fill_iff named)
  reported := fun name => build_eq_unknownName_iff
  unread := by
    intro raws name names outside
    refine build_of_outside ?_
    rw [firstOutside, names]
    exact outside

def unsortedValues : List (String × Value) :=
  [("HOME_PATH", .text "/Users/a"), ("SHOULD_LOG", .bool true), (versionParameter, .text "1013")]

theorem build_reordered_unsorted :
    (unsortedValues.Perm unsortedValues.reverse ∧ (unsortedValues.map (·.1)).Nodup ∧
      ∃ s, build unsortedValues (some contentParameters) none versionParameter = .ok s) ∧
    BuiltAlike contentParameters none versionParameter unsortedValues unsortedValues.reverse := by
  have reordered := (List.reverse_perm unsortedValues).symm
  have distinct : (unsortedValues.map (·.1)).Nodup := by decide
  exact ⟨⟨reordered, distinct, _, rfl⟩, build_reordered reordered distinct⟩

end Store
end SandboxProfile
