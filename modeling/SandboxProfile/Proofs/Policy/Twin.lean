import SandboxProfile.Proofs.Policy.Section
import SandboxProfile.Proofs.Policy.Unquoted

/-! Twins: finished parts of a policy that have one outline. In two stores that differ
in texts only, a sealed part resolves to twins, or is absent in both, or has faults of
one family. -/
namespace SandboxProfile

/-- Two finished things whose forms have one outline. -/
structure SameOutline (isPlain : α → Bool) (toForm : α → Form) (a b : α) : Prop where
  left : isPlain a = true
  right : isPlain b = true
  outline : (toForm a).outline = (toForm b).outline

namespace SameOutline
variable {α : Type} {isPlain : α → Bool} {toForm : α → Form} {row others : List α}

theorem all_left (same : List.Forall₂ (SameOutline isPlain toForm) row others) :
    row.all isPlain = true := by
  induction same with
  | nil => rfl
  | cons first _ ih => rw [List.all_cons, first.left, ih, Bool.true_and]

theorem all_right (same : List.Forall₂ (SameOutline isPlain toForm) row others) :
    others.all isPlain = true := by
  induction same with
  | nil => rfl
  | cons first _ ih => rw [List.all_cons, first.right, ih, Bool.true_and]

theorem outlines (same : List.Forall₂ (SameOutline isPlain toForm) row others) :
    (row.map toForm).map Form.outline = (others.map toForm).map Form.outline := by
  induction same with
  | nil => rfl
  | cons first _ ih =>
    rw [List.map_cons, List.map_cons, first.outline, ih, List.map_cons, List.map_cons]

end SameOutline

abbrev Arg.Twins := SameOutline Arg.isPlain Arg.toForm

abbrev Filter.Twins := SameOutline (Filter.every Arg.isPlain) Filter.toForm

/-- Two finished statements that differ inside the arguments of their filters only. -/
structure Statement.Twins (s t : Statement) : Prop where
  action : s.action = t.action
  operations : s.operations = t.operations
  modifiers : s.modifiers = t.modifiers
  plainOperations : s.operations.all Form.isPlainName = true
  plainModifiers : s.modifiers.all Form.isPlainName = true
  filters : List.Forall₂ Filter.Twins s.filters t.filters
  scope : Option.Rel Filter.Twins s.scope t.scope

/-- Two stores that differ in texts only and bind the given names as paths. -/
structure Store.Pair (paths : List String) (s t : Store) : Prop where
  twins : s.Twins t
  left : s.Reached
  right : t.Reached
  leftPaths : s.BindsPaths paths
  rightPaths : t.BindsPaths paths

variable {paths : List String} {s t : Store}

/-- A sealed template is absent in both stores or gives two texts without quotes. -/
theorem Template.render_agree_unquoted (pair : Store.Pair paths s t) {parts : Template}
    (isSealed : parts.isSealed paths = true) :
    Agree PolicyFault.SameFamily
      (Option.Rel fun a b => hasDoubleQuote a = false ∧ hasDoubleQuote b = false)
      (Template.render s parts) (Template.render t parts) := by
  refine (Template.render_agree pair.twins parts).knowing fun a b left right related => ?_
  cases related with
  | none => exact .none
  | some _ =>
    exact .some ⟨Template.render_unquoted pair.left pair.leftPaths isSealed left,
      Template.render_unquoted pair.right pair.rightPaths isSealed right⟩

/-- Only a template for a regular expression has to be sealed: a text is quoted. -/
theorem Arg.instantiate_agree (pair : Store.Pair paths s t) {a : Arg}
    (isSealed : a.isSealed paths = true) :
    Agree PolicyFault.SameFamily (Option.Rel Arg.Twins) (a.instantiate s) (a.instantiate t) := by
  cases a with
  | text content => exact .ok (.some ⟨rfl, rfl, rfl⟩)
  | symbol name => exact .ok (.some ⟨isSealed, isSealed, rfl⟩)
  | mode mask => exact .ok (.some ⟨rfl, rfl, rfl⟩)
  | template parts =>
    exact (Template.render_agree pair.twins parts).mapOption fun _ _ _ => ⟨rfl, rfl, rfl⟩
  | stray value =>
    cases value with
    | null => exact .ok .none
    | _ => contradiction
  | regex pattern =>
    cases pattern with
    | fixed text => exact .ok (.some ⟨isSealed, isSealed, rfl⟩)
    | template parts =>
      exact (Template.render_agree_unquoted pair isSealed).mapOption fun _ _ unquoted =>
        ⟨by simp [isPlain, unquoted.1], by simp [isPlain, unquoted.2], rfl⟩

/-- A traversal agrees if every step of it does. -/
theorem traverseOption_agree {ε ε' α β γ : Type} {E : ε → ε' → Prop} {R : β → γ → Prop}
    {f : α → Except ε (Option β)} {g : α → Except ε' (Option γ)} {items : List α}
    (step : ∀ a ∈ items, Agree E (Option.Rel R) (f a) (g a)) :
    Agree E (Option.Rel (List.Forall₂ R)) (traverseOption f items) (traverseOption g items) := by
  induction items with
  | nil => exact .ok (.some .nil)
  | cons a rest ih =>
    refine (step a List.mem_cons_self).bind fun b c related => ?_
    cases related with
    | none => exact .ok .none
    | some related =>
      have others := ih fun d member => step d (List.mem_cons_of_mem a member)
      exact others.mapOption fun _ _ row => .cons related row

namespace Filter

/-- A form for a word and a row. -/
theorem outline_headed (word : String) (forms : List Form) :
    Form.outline (.list (.atom word :: forms)) = .list (.atom word :: forms.map Form.outline) := by
  rw [Form.outline, Form.outlines, Form.outline, Form.outlines_eq_map]

private theorem twins_only {kind : FilterKind} {a b : Arg} {others more : List Arg}
    (first : Arg.Twins a b) (row : List.Forall₂ Arg.Twins others more) :
    Twins (.only kind a others) (.only kind b more) where
  left := by rw [every, first.left, SameOutline.all_left row, Bool.true_and]
  right := by rw [every, first.right, SameOutline.all_right row, Bool.true_and]
  outline := by
    rw [toForm, toForm, outline_headed, outline_headed,
      SameOutline.outlines (List.Forall₂.cons first row)]

theorem everyList_eq_all (p : Arg → Bool) (filters : List Filter) :
    everyList p filters = filters.all (every p) := by
  rw [Bool.eq_iff_iff, everyList_iff, List.all_eq_true]

/-- Filters in a form for a row of filters. -/
private theorem twins_group {group : List Filter → Filter} {word : String}
    (every_group : ∀ p filters, (group filters).every p = everyList p filters)
    (toForm_group : ∀ filters, (group filters).toForm = .list (.atom word :: toForms filters))
    {filters others : List Filter} (row : List.Forall₂ Twins filters others) :
    Twins (group filters) (group others) where
  left := by rw [every_group, everyList_eq_all, SameOutline.all_left row]
  right := by rw [every_group, everyList_eq_all, SameOutline.all_right row]
  outline := by
    rw [toForm_group, toForm_group, outline_headed, outline_headed, toForms_eq_map, toForms_eq_map,
      SameOutline.outlines row]

private theorem twins_not {f g : Filter} (same : Twins f g) : Twins (.not f) (.not g) where
  left := by rw [every, same.left]
  right := by rw [every, same.right]
  outline := by
    rw [toForm, toForm, outline_headed, outline_headed, List.map_singleton, List.map_singleton,
      same.outline]

mutual
theorem instantiate_agree (pair : Store.Pair paths s t) : ∀ f : Filter,
    f.isSealed paths = true →
    Agree PolicyFault.SameFamily (Option.Rel Twins) (f.instantiate s) (f.instantiate t)
  | .only kind first others, isSealed => by
    simp only [Filter.isSealed, Bool.and_eq_true, List.all_eq_true] at isSealed
    unfold instantiate
    refine (Arg.instantiate_agree pair isSealed.1).bind fun a b related => ?_
    cases related with
    | none => exact .ok .none
    | some same =>
      have row := traverseOption_agree fun c member =>
        Arg.instantiate_agree pair (isSealed.2 c member)
      exact row.mapOption fun _ _ others => twins_only same others
  | .all filters, isSealed => by
    unfold instantiate
    exact (instantiateList_agree pair filters isSealed).mapOption fun _ _ row =>
      twins_group (fun _ _ => rfl) (fun _ => rfl) row
  | .any filters, isSealed => by
    unfold instantiate
    exact (instantiateList_agree pair filters isSealed).mapOption fun _ _ row =>
      twins_group (fun _ _ => rfl) (fun _ => rfl) row
  | .not filter, isSealed => by
    unfold instantiate
    exact (instantiate_agree pair filter isSealed).mapOption fun _ _ => twins_not
  | .stray value, _ => .error rfl

theorem instantiateList_agree (pair : Store.Pair paths s t) : ∀ filters : List Filter,
    Filter.areSealed paths filters = true →
    Agree PolicyFault.SameFamily (Option.Rel (List.Forall₂ Twins))
      (instantiateList s filters) (instantiateList t filters)
  | [], _ => .ok (.some .nil)
  | f :: rest, isSealed => by
    simp only [Filter.areSealed, Bool.and_eq_true] at isSealed
    unfold instantiateList
    refine (instantiate_agree pair f isSealed.1).bind fun a b related => ?_
    cases related with
    | none => exact .ok .none
    | some same =>
      exact (instantiateList_agree pair rest isSealed.2).mapOption fun _ _ row => .cons same row
end

end Filter

namespace Statement
variable {a b : Statement}

theorem Twins.sameOutline (same : Twins a b) : SameOutline isPlain toForm a b := by
  have filters := SameOutline.outlines same.filters
  have bare : a.bareForm.outline = b.bareForm.outline := by
    simp only [bareForm, itemForms, Filter.outline_headed, same.action, same.operations,
      same.modifiers, List.map_append, filters]
  obtain ⟨left, right, outline⟩ : a.scope.all (·.every Arg.isPlain) = true ∧
      b.scope.all (·.every Arg.isPlain) = true ∧ a.toForm.outline = b.toForm.outline := by
    have scope := same.scope
    unfold toForm
    generalize a.scope = left at scope
    generalize b.scope = right at scope
    cases scope with
    | none => exact ⟨rfl, rfl, bare⟩
    | some narrowed =>
      refine ⟨narrowed.left, narrowed.right, ?_⟩
      simp only [Filter.outline_headed, List.map_cons, List.map_nil, narrowed.outline, bare]
  exact {
    left := by
      simp [isPlain, same.plainOperations, same.plainModifiers, SameOutline.all_left same.filters,
        left]
    right := by
      simp [isPlain, ← same.operations, ← same.modifiers, same.plainOperations,
        same.plainModifiers, SameOutline.all_right same.filters, right]
    outline := outline }

theorem Twins.isDenyDefault (same : Twins a b) : a.isDenyDefault = b.isDenyDefault := by
  have filters : a.filters.isEmpty = b.filters.isEmpty := by
    have row := same.filters
    generalize a.filters = left at row
    generalize b.filters = right at row
    cases row <;> rfl
  have scope : a.scope.isNone = b.scope.isNone := by
    have scope := same.scope
    generalize a.scope = left at scope
    generalize b.scope = right at scope
    cases scope <;> rfl
  rw [Statement.isDenyDefault, Statement.isDenyDefault, same.action, same.operations, filters,
    scope]

theorem Twins.rename (same : Twins a b) {renames : List (String × String)}
    (plain : ∀ pair ∈ renames, Form.isPlainName pair.2 = true) :
    Twins (a.rename renames) (b.rename renames) where
  action := same.action
  operations := by rw [Statement.rename, Statement.rename, same.operations]
  modifiers := same.modifiers
  plainOperations := by
    simp only [Statement.rename, List.all_map, List.all_eq_true, Function.comp]
    intro operation member
    cases found : renames.lookup operation with
    | none => exact List.all_eq_true.mp same.plainOperations operation member
    | some target => exact plain _ (mem_of_lookup found)
  plainModifiers := same.plainModifiers
  filters := same.filters
  scope := same.scope

theorem instantiateScope_agree (pair : Store.Pair paths s t) {scope : Option Filter}
    (isSealed : scope.all (Filter.isSealed paths) = true) :
    Agree PolicyFault.SameFamily (Option.Rel (Option.Rel Filter.Twins))
      (instantiateScope s scope) (instantiateScope t scope) := by
  cases scope with
  | none => exact .ok (.some .none)
  | some f => exact (Filter.instantiate_agree pair f isSealed).mapOption fun _ _ => .some

theorem instantiate_agree (pair : Store.Pair paths s t) (isSealed : a.isSealed paths = true) :
    Agree PolicyFault.SameFamily (Option.Rel Twins) (a.instantiate s) (a.instantiate t) := by
  simp only [Statement.isSealed, Bool.and_eq_true] at isSealed
  obtain ⟨⟨⟨operations, modifiers⟩, filters⟩, scope⟩ := isSealed
  refine (Filter.instantiateList_agree pair a.filters filters).bind fun _ _ related => ?_
  cases related with
  | none => exact .ok .none
  | some row =>
    exact (instantiateScope_agree pair scope).mapOption fun _ _ narrowed =>
      ⟨rfl, rfl, rfl, operations, modifiers, row, narrowed⟩

end Statement

mutual
/-- A guard takes the same branch in both stores, and twins follow one another. -/
theorem Node.resolve_agree (pair : Store.Pair paths s t) (id : String) : ∀ node : Node,
    node.isSealed paths = true → Agree PolicyFault.SameFamily (List.Forall₂ Statement.Twins)
      (node.resolve s id).result (node.resolve t id).result
  | .leaf a, isSealed => by
    simp only [resolve, Traced.result_bind, Traced.result_ofExcept]
    refine (Statement.instantiate_agree pair isSealed).bind fun _ _ related => ?_
    cases related with
    | none => exact .ok .nil
    | some same => exact .ok (.cons same .nil)
  | .guarded guard body otherwise, isSealed => by
    simp only [Node.isSealed, Bool.and_eq_true, Bool.not_eq_true'] at isSealed
    simp only [resolve, Traced.result_bind, Traced.result_ofExcept]
    refine (Guard.evaluate_agree pair.twins guard isSealed.1.1).bind fun holds _ same => ?_
    subst same
    cases holds with
    | true => exact resolveList_agree pair id body isSealed.1.2
    | false => exact resolveList_agree pair id otherwise isSealed.2
  | .stray value, _ => .error rfl

theorem Node.resolveList_agree (pair : Store.Pair paths s t) (id : String) : ∀ nodes : List Node,
    Node.areSealed paths nodes = true →
    Agree PolicyFault.SameFamily (List.Forall₂ Statement.Twins)
      (Node.resolveList s id nodes).result (Node.resolveList t id nodes).result
  | [], _ => .ok .nil
  | node :: rest, isSealed => by
    simp only [Node.areSealed, Bool.and_eq_true] at isSealed
    simp only [Node.resolveList, Traced.result_bind, Traced.result_pure]
    refine (resolve_agree pair id node isSealed.1).bind fun _ _ here => ?_
    exact (resolveList_agree pair id rest isSealed.2).bind fun _ _ others =>
      .ok (List.rel_append here others)
end

end SandboxProfile
