import SandboxProfile.Policy.Compose
import SandboxProfile.Proofs.Outcome
import SandboxProfile.Proofs.Parameter.Reached
import Mathlib.Data.Option.Basic

/-! Stores that differ in texts only. Guards without comparisons of texts hold in both
or in neither, and a template is absent in both or in neither. -/
namespace SandboxProfile

/-- The families of faults that callers tell apart. -/
inductive FaultFamily where
  | undefinedParameter
  | typeMismatch
  | duplicateParameter
  | unknownParameter
  | storeFrozen
  | unreadableValue
  | unresolvedTemplate
  | malformedPolicy
  | unknownTier
  | unknownRole
  | duplicateFragment
  | openPosture
  deriving Repr, DecidableEq

def ParameterFault.family : ParameterFault → FaultFamily
  | .notBound _ | .primitivesUnknown _ => .undefinedParameter
  | .alreadyBound _ => .duplicateParameter
  | .unknownName _ => .unknownParameter
  | .frozen _ | .primitivesFrozen => .storeFrozen
  | .tooManyDigits _ | .unwritable | .unknownKind _ => .unreadableValue
  | _ => .typeMismatch

def PolicyFault.family : PolicyFault → FaultFamily
  | .parameter fault => fault.family
  | .requiredUnset _ | .unresolvedTemplate _ | .unresolvedRegex _ => .unresolvedTemplate
  | .notGuard _ | .notFilter _ | .notArgument _ | .notNode _ => .malformedPolicy

def ComposeFault.family : ComposeFault → FaultFamily
  | .unknownTier _ | .undeclaredTier _ _ => .unknownTier
  | .unknownRole _ => .unknownRole
  | .duplicateFragment _ => .duplicateFragment
  | .openPosture _ _ => .openPosture
  | .inFragment _ fault => fault.family
  | .inAlias fault => fault.family

def PolicyFault.SameFamily (e f : PolicyFault) : Prop := e.family = f.family

/-- Two settings that are equal unless both are texts. -/
inductive Setting.Alike : Option Setting → Option Setting → Prop where
  | unset : Alike none none
  | flag (on : Bool) : Alike (some (.flag on)) (some (.flag on))
  | number (i : Int) : Alike (some (.number i)) (some (.number i))
  | text (a b : String) : Alike (some (.text a)) (some (.text b))

namespace Store

/-- Two parameters of one kind, both set or both unset, with one value if the kind is
that of truth values or of integers. -/
structure AlikeParameters (p q : Parameter) : Prop where
  kind : p.kind = q.kind
  isSet : p.isSet = q.isSet
  value : p.kind = .bool ∨ p.kind = .int → p.setting = q.setting

/-- Two stores that bind the same names alike and have the same primitives. -/
structure Alike (s t : Store) : Prop where
  parameters : ∀ name, Option.Rel AlikeParameters (s.find? name) (t.find? name)
  primitives : Option.Rel (fun known known' => ∀ p, p ∈ known ↔ p ∈ known')
    s.primitives t.primitives

theorem setting_of_admitted {kind : ParamKind} {setting : Option Setting}
    (admitted : kind.admits setting = true) (untyped : ¬(kind = .bool ∨ kind = .int)) :
    setting = none ∨ ∃ s, setting = some (.text s) := by
  unfold ParamKind.admits at admitted
  split at admitted <;> simp_all

theorem AlikeParameters.setting {p q : Parameter} (alike : AlikeParameters p q)
    (admittedP : p.kind.admits p.setting = true) (admittedQ : q.kind.admits q.setting = true) :
    Setting.Alike p.setting q.setting := by
  by_cases typed : p.kind = .bool ∨ p.kind = .int
  · rw [← alike.value typed]
    cases p.setting with
    | none => exact .unset
    | some setting => cases setting <;> constructor
  · have sameSet : p.setting.isSome = q.setting.isSome := alike.isSet
    have untyped : ¬(q.kind = .bool ∨ q.kind = .int) := alike.kind ▸ typed
    rcases setting_of_admitted admittedP typed with unsetP | ⟨a, textP⟩
    · rcases setting_of_admitted admittedQ untyped with unsetQ | ⟨b, textQ⟩
      · rw [unsetP, unsetQ]
        exact .unset
      · rw [unsetP, textQ] at sameSet
        contradiction
    · rcases setting_of_admitted admittedQ untyped with unsetQ | ⟨b, textQ⟩
      · rw [textP, unsetQ] at sameSet
        contradiction
      · rw [textP, textQ]
        exact .text a b

/-- Two stores whose answers end alike. -/
structure Twins (s t : Store) : Prop where
  setting : ∀ name, Agree (fun e f => e.family = f.family) Setting.Alike
    (s.setting name) (t.setting name)
  defines : ∀ primitive, Agree (fun e f => e.family = f.family) Eq
    (s.defines primitive) (t.defines primitive)

theorem Alike.twins {s t : Store} (alike : s.Alike t) (hs : s.Reached) (ht : t.Reached) :
    s.Twins t where
  setting name := by
    have related := alike.parameters name
    unfold Store.setting Store.get
    generalize foundS : s.find? name = p at related
    generalize foundT : t.find? name = q at related
    cases related with
    | none => exact .error rfl
    | some same =>
      exact .ok (same.setting (hs.fits_of_find? foundS).admitted
        (ht.fits_of_find? foundT).admitted)
  defines primitive := by
    have related := alike.primitives
    unfold Store.defines
    generalize s.primitives = known at related
    generalize t.primitives = known' at related
    cases related with
    | none => exact .error rfl
    | some same => exact .ok (by simp [same primitive])

theorem Twins.isSet {s t : Store} (twins : s.Twins t) (name : String) :
    Agree (fun e f => e.family = f.family) Eq (s.isSet name) (t.isSet name) := by
  rw [isSet_eq, isSet_eq]
  refine (twins.setting name).map fun a b alike => ?_
  cases alike <;> rfl

end Store

namespace Guard
variable {s t : Store}

theorem compareHolds_agree (twins : s.Twins t) (param : String) (op : Comparison) (value : Int) :
    Agree (fun e f => e.family = f.family) Eq
      (compareHolds s param op value) (compareHolds t param op value) := by
  refine (twins.setting param).bind fun a b alike => ?_
  cases alike with
  | number i => exact .ok rfl
  | unset => exact .error rfl
  | flag on => exact .error rfl
  | text a b => exact .error rfl

theorem toggleHolds_agree (twins : s.Twins t) (param : String) :
    Agree (fun e f => e.family = f.family) Eq (toggleHolds s param) (toggleHolds t param) := by
  refine (twins.setting param).bind fun a b alike => ?_
  cases alike with
  | flag on => exact .ok rfl
  | unset => exact .error rfl
  | number i => exact .error rfl
  | text a b => exact .error rfl

mutual
/-- Whether a guard compares the text of a parameter. -/
def comparesText : Guard → Bool
  | .equals _ _ => true
  | .all terms => comparesTexts terms
  | .any terms => comparesTexts terms
  | .not term => comparesText term
  | _ => false

def comparesTexts : List Guard → Bool
  | [] => false
  | g :: rest => comparesText g || comparesTexts rest
end

/-- Faults of parameters stay alike as faults of policies. -/
private theorem ofParameter {x y : Except ParameterFault Bool}
    (agree : Agree (fun e f => e.family = f.family) Eq x y) :
    Agree PolicyFault.SameFamily Eq (x.mapError .parameter) (y.mapError .parameter) :=
  agree.mapError fun _ _ same => same

mutual
theorem evaluate_agree (twins : s.Twins t) : ∀ g : Guard, g.comparesText = false →
    Agree PolicyFault.SameFamily Eq (g.evaluate s) (g.evaluate t)
  | .always, _ => .ok rfl
  | .compare param op value, _ => ofParameter (compareHolds_agree twins param op value)
  | .equals param value, free => by contradiction
  | .isTrue param, _ => ofParameter (toggleHolds_agree twins param)
  | .isSet param, _ => ofParameter (twins.isSet param)
  | .defined primitive, _ => ofParameter (twins.defines primitive)
  | .all terms, free => evaluateAll_agree twins terms free
  | .any terms, free => evaluateAny_agree twins terms free
  | .not term, free => (evaluate_agree twins term free).map fun _ _ same => by rw [same]
  | .stray value, _ => .error rfl

theorem evaluateAll_agree (twins : s.Twins t) : ∀ terms : List Guard, comparesTexts terms = false →
    Agree PolicyFault.SameFamily Eq (evaluateAll s terms) (evaluateAll t terms)
  | [], _ => .ok rfl
  | g :: rest, free => by
    simp only [comparesTexts, Bool.or_eq_false_iff] at free
    rw [evaluateAll_cons, evaluateAll_cons]
    exact (evaluate_agree twins g free.1).branch (evaluateAll_agree twins rest free.2) (.ok rfl)

theorem evaluateAny_agree (twins : s.Twins t) : ∀ terms : List Guard, comparesTexts terms = false →
    Agree PolicyFault.SameFamily Eq (evaluateAny s terms) (evaluateAny t terms)
  | [], _ => .ok rfl
  | g :: rest, free => by
    simp only [comparesTexts, Bool.or_eq_false_iff] at free
    rw [evaluateAny_cons, evaluateAny_cons]
    exact (evaluate_agree twins g free.1).branch (.ok rfl) (evaluateAny_agree twins rest free.2)
end

end Guard

/-- References in a text are absent in both stores or in neither. -/
theorem Ref.resolve_agree {s t : Store} (twins : s.Twins t) (r : Ref) :
    Agree PolicyFault.SameFamily (Option.Rel fun _ _ => True) (r.resolve s) (r.resolve t) := by
  have agree := twins.setting r.param
  unfold Ref.resolve
  generalize s.setting r.param = x at agree
  generalize t.setting r.param = y at agree
  cases agree with
  | error same => exact .error same
  | ok alike =>
    cases alike with
    | unset =>
      cases r.required with
      | true => exact .error rfl
      | false => exact .ok .none
    | flag on => exact .error rfl
    | number i =>
      -- The number is the same in both stores, so that it is too long in both or in neither.
      dsimp only
      split
      · exact .error rfl
      · exact .ok (.some trivial)
    | text a b => exact .ok (.some trivial)

theorem Template.render_agree {s t : Store} (twins : s.Twins t) (parts : Template) :
    Agree PolicyFault.SameFamily (Option.Rel fun _ _ => True)
      (Template.render s parts) (Template.render t parts) := by
  induction parts with
  | nil => exact .ok (.some trivial)
  | cons part rest ih =>
    cases part with
    | fixed text => exact ih.mapOption fun _ _ _ => trivial
    | ref r =>
      refine (r.resolve_agree twins).bind fun a b related => ?_
      cases related with
      | none => exact .ok .none
      | some _ => exact ih.mapOption fun _ _ _ => trivial

end SandboxProfile
