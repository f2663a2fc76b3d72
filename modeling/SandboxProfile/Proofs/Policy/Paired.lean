import SandboxProfile.Proofs.Policy.Dependence
import SandboxProfile.Proofs.Policy.Origin

/-! Pairs of compositions. Two stores that agree on all but one parameter can differ in the
fragments that mention it, and nowhere else. If these fragments end alike, then so do the
compositions, and two documents differ by what these fragments contribute. -/
namespace SandboxProfile
variable {name : String} {s t : Store}

/-- Two stores that agree on everything but one parameter. -/
def Store.AgreeApartFrom (name : String) (s t : Store) : Prop :=
  ∀ m, m ≠ .parameter name → s.AgreeOn t m

/-- Of two stores, only the second has a toggle switched on. -/
structure Store.SwitchOn (name : String) (s t : Store) : Prop where
  agree : s.AgreeApartFrom name t
  off : s.setting name = .ok (some (.flag false))
  on : t.setting name = .ok (some (.flag true))

/-- Of two stores, only the second has a parameter set, to a text. -/
structure Store.Supply (name value : String) (s t : Store) : Prop where
  agree : s.AgreeApartFrom name t
  unset : s.setting name = .ok none
  supplied : t.setting name = .ok (some (.text value))

/-- A parameter under another setting if it has the name. -/
def Parameter.assign (name : String) (setting : Option Setting) (p : Parameter) : Parameter :=
  if p.name = name then { p with setting := setting } else p

namespace Store

/-- A store in which one parameter has another setting. -/
def assign (s : Store) (name : String) (setting : Option Setting) : Store :=
  { s with parameters := s.parameters.map (Parameter.assign name setting) }

theorem agreeApartFrom_assign (s : Store) (name : String) (setting : Option Setting) :
    AgreeApartFrom name s (s.assign name setting) := by
  intro m different
  cases m with
  | primitive known => rfl
  | parameter asked =>
    have apart : asked ≠ name := fun same => different (congrArg Mention.parameter same)
    show (s.parameters.find? fun p => p.name == asked).map (·.setting) =
      ((s.parameters.map (Parameter.assign name setting)).find? fun p => p.name == asked).map
        (·.setting)
    induction s.parameters with
    | nil => rfl
    | cons p rest ih =>
      rw [List.map_cons, List.find?_cons, List.find?_cons, Parameter.assign]
      by_cases changed : p.name = name
      · have other : (name == asked) = false := by simpa using apart.symm
        simpa only [changed, ↓reduceIte, other] using ih
      · simp only [changed, ↓reduceIte]
        cases p.name == asked with
        | false => exact ih
        | true => rfl

end Store

/-! What does not mention the parameter is the same in both stores. -/

section Fresh
variable (agree : s.AgreeApartFrom name t)
include agree

theorem Store.AgreeApartFrom.upholds {ms : List Mention} (fresh : .parameter name ∉ ms) :
    ∀ m ∈ ms, s.Upholds False t m :=
  fun m member => (agree m fun same => fresh (same ▸ member)).upholds

theorem Guard.evaluate_eq_of_fresh {g : Guard} (fresh : .parameter name ∉ g.mentions) :
    g.evaluate s = g.evaluate t :=
  (g.evaluate_upheld (agree.upholds fresh)).eq

theorem Guard.holds_eq_of_fresh {g : Guard} (fresh : .parameter name ∉ g.mentions) :
    g.holds s = g.holds t := by
  rw [holds, g.evaluate_eq_of_fresh agree fresh, holds]

theorem Node.resolve_eq_of_fresh {node : Node} (fresh : .parameter name ∉ node.mentions)
    (id : String) : node.resolve s id = node.resolve t id :=
  (node.resolve_upheld id (agree.upholds fresh)).eq

namespace Fragment
variable {f : Fragment} {fs : List Fragment}

theorem outcome_eq_of_fresh (fresh : .parameter name ∉ f.mentions) :
    f.outcome s = f.outcome t :=
  congrArg Traced.result (Fragment.resolve_upheld (agree.upholds fresh)).eq

theorem contribution_eq_of_fresh (fresh : .parameter name ∉ f.mentions) :
    f.contribution s = f.contribution t := by
  rw [contribution, outcome_eq_of_fresh agree fresh, contribution]

theorem includedIds_eq_of_fresh (fresh : ∀ f ∈ fs, .parameter name ∉ f.mentions) :
    includedIds s fs = includedIds t fs := by
  unfold includedIds
  congr 1
  refine List.filter_congr fun f member => Guard.holds_eq_of_fresh agree fun mentioned => ?_
  exact fresh f member (List.mem_append_left _ mentioned)

end Fragment
end Fresh

/-- Two computations with the same fault or with two results. -/
def EndAlike {ε α : Type} (x y : Except ε α) : Prop := Agree Eq (fun _ _ => True) x y

theorem EndAlike.of_eq {ε α : Type} {x y : Except ε α} (same : x = y) : EndAlike x y :=
  same ▸ Agree.refl (fun _ => rfl) (fun _ => trivial) x

/-! What nodes resolve to, and how it ends in two stores. -/

namespace Node
variable {store : Store} {id : String} {node : Node} {guard : Guard}
  {rest body otherwise : List Node} {R : List Statement → List Statement → Prop}

theorem result_leaf (a : Statement) :
    (resolve store id (.leaf a)).result = (a.instantiate store).map Option.toList := by
  rw [resolve, Traced.result_bind, Traced.result_ofExcept]
  rcases a.instantiate store with fault | _ | b <;> rfl

theorem result_guarded : (resolve store id (.guarded guard body otherwise)).result =
    guard.evaluate store >>= fun holds =>
      if holds then (resolveList store id body).result
      else (resolveList store id otherwise).result := by
  rw [resolve, Traced.result_bind, Traced.result_ofExcept]
  rcases guard.evaluate store with fault | _ | _ <;> rfl

theorem result_cons : (resolveList store id (node :: rest)).result =
    (node.resolve store id).result >>= fun here =>
      (resolveList store id rest).result.map (here ++ ·) := by
  rw [resolveList, Traced.result_bind]
  rcases (node.resolve store id).result with fault | here
  · rfl
  · rw [Outcome.ok_bind, Outcome.ok_bind, Traced.result_bind]
    cases (resolveList store id rest).result <;> rfl

theorem guarded_agree (same : guard.evaluate s = guard.evaluate t)
    (holding : Agree Eq R (resolveList s id body).result (resolveList t id body).result)
    (failing : Agree Eq R (resolveList s id otherwise).result (resolveList t id otherwise).result) :
    Agree Eq R (resolve s id (.guarded guard body otherwise)).result
      (resolve t id (.guarded guard body otherwise)).result := by
  rw [result_guarded, result_guarded, same]
  exact (Agree.refl (fun _ => rfl) (fun _ => rfl) _).branch holding failing

/-- A relation of rows that is kept when rows are put together is kept by a row of nodes. -/
theorem resolveList_agree_of_append {nodes : List Node} (nil : R [] [])
    (append : ∀ {xs ys more others}, R xs ys → R more others → R (xs ++ more) (ys ++ others))
    (each : ∀ node ∈ nodes, Agree Eq R (node.resolve s id).result (node.resolve t id).result) :
    Agree Eq R (resolveList s id nodes).result (resolveList t id nodes).result := by
  induction nodes with
  | nil => exact .ok nil
  | cons node rest ih =>
    obtain ⟨first, later⟩ := List.forall_mem_cons.mp each
    rw [result_cons, result_cons]
    exact first.bind fun _ _ here => (ih later).map fun _ _ => append here

end Node

namespace Fragment
variable {fs : List Fragment}

/-- A fragment as a node: what it contributes is what the node resolves to. -/
def node (f : Fragment) : Node := .guarded f.guard f.body []

theorem result_node {store : Store} {f : Fragment} :
    (f.node.resolve store f.id).result = (f.outcome store).map fun out => out.getD [] := by
  rw [node, Node.result_guarded, outcome_eq]
  rcases f.guard.evaluate store with fault | _ | _
  · rfl
  · rfl
  · show (Node.resolveList store f.id f.body).result =
      ((Node.resolveList store f.id f.body).result.map some).map fun out => out.getD []
    cases (Node.resolveList store f.id f.body).result <;> rfl

section Contribution
variable {f : Fragment} {R : List Statement → List Statement → Prop}
  (agree : Agree Eq R (f.node.resolve s f.id).result (f.node.resolve t f.id).result)
include agree

theorem endAlike_of_node : EndAlike (f.outcome s) (f.outcome t) := by
  rw [result_node, result_node] at agree
  exact agree.of_map.knowing fun _ _ _ _ _ => trivial

theorem contribution_of_node (failing : (∀ out, f.outcome s ≠ .ok out) → R [] []) :
    R (f.contribution s) (f.contribution t) := by
  rw [result_node, result_node] at agree
  have alike := agree.of_map
  unfold contribution
  generalize f.outcome s = x at alike failing
  generalize f.outcome t = y at alike
  cases alike with
  | error same => exact failing fun out => by simp
  | @ok a b related => cases a <;> cases b <;> exact related

end Contribution

theorem faultBehind_eq {f : Fragment} (alike : EndAlike (f.outcome s) (f.outcome t))
    (earlier : List String) : f.faultBehind s earlier = f.faultBehind t earlier := by
  unfold faultBehind
  generalize f.outcome s = x at alike
  generalize f.outcome t = y at alike
  cases alike with
  | ok _ => rfl
  | error same => rw [same]

theorem faultsBehind_eq (alike : ∀ f ∈ fs, EndAlike (f.outcome s) (f.outcome t))
    (earlier : List String) : faultsBehind s earlier fs = faultsBehind t earlier fs := by
  induction fs generalizing earlier with
  | nil => simp [faultsBehind]
  | cons f rest ih =>
    obtain ⟨here, later⟩ := List.forall_mem_cons.mp alike
    rw [faultsBehind_cons, faultsBehind_cons, faultBehind_eq here, ih later]

end Fragment

namespace Library
variable {l : Library} {tier : Option Tier} {roles : List String}

theorem eq_of_id_eq {f g : Fragment} (member : f ∈ l.fragments) (other : g ∈ l.fragments)
    (same : f.id = g.id) : f = g :=
  List.inj_on_of_nodup_map l.ids_nodup member other same

/-- Two stores in which the parts of a library end alike. -/
structure Paired (l : Library) (s t : Store) : Prop where
  fragments : ∀ f ∈ l.fragments, EndAlike (f.outcome s) (f.outcome t)
  posture : l.postureFault s = l.postureFault t
  aliases : ∀ a ∈ l.aliases, a.guard.evaluate s = a.guard.evaluate t

namespace Paired
variable (paired : l.Paired s t)
include paired

theorem faults_eq (tier : Option Tier) (roles : List String) :
    l.faults s tier roles = l.faults t tier roles := by
  have sequence : ∀ f ∈ l.sequence tier roles, EndAlike (f.outcome s) (f.outcome t) :=
    fun f member => paired.fragments f (mem_fragments_of_mem_sequence member)
  obtain ⟨posture, following⟩ := List.forall_mem_cons.mp sequence
  have aliases : l.aliases.map (AliasSet.fault s) = l.aliases.map (AliasSet.fault t) := by
    refine List.map_congr_left fun a member => ?_
    rw [AliasSet.fault, paired.aliases a member, AliasSet.fault]
  rw [faults, faults, Fragment.faultBehind_eq posture, paired.posture,
    Fragment.faultsBehind_eq following, aliases]

theorem renames_eq : l.renames s = l.renames t := by
  unfold renames pairsInForce
  congr 2
  refine List.filter_congr fun a member => ?_
  rw [Guard.holds, paired.aliases a member, Guard.holds]

theorem granted_eq {fs : List Fragment} (agree : s.AgreeApartFrom name t)
    (fresh : ∀ f ∈ fs, .parameter name ∉ f.mentions) : l.granted s fs = l.granted t fs := by
  have contributions : fs.flatMap (Fragment.contribution s) =
      fs.flatMap (Fragment.contribution t) :=
    List.flatMap_congr fun f member => Fragment.contribution_eq_of_fresh agree (fresh f member)
  rw [granted_eq_map, granted_eq_map, contributions, paired.renames_eq]

/-- Paired stores give the same fault, or two documents that differ as far as the rows of
their fragments do. -/
theorem compose_agree {R : Document → Document → Prop} {requested : Value}
    (documents : ∀ tier, l.Resolves s tier roles → l.Resolves t tier roles →
      R (l.assembled s tier roles) (l.assembled t tier roles)) :
    Agree Eq R (l.compose s requested roles).result (l.compose t requested roles).result := by
  simp only [compose, composeChosen, Traced.result_bind, Traced.result_ofExcept]
  refine (Agree.refl (fun _ => rfl) (fun _ => rfl) (selectTier requested)).bind
    fun tier _ same => ?_
  subst same
  refine (Agree.refl (fun _ => rfl) (fun _ => rfl) (l.checkTier tier)).bind fun _ _ _ => ?_
  refine (Agree.refl (fun _ => rfl) (fun _ => rfl) (l.checkRoles roles)).bind fun _ _ _ => ?_
  rw [composeSelected_result, composeSelected_result, ← paired.faults_eq tier roles]
  cases wrong : leftmost (l.faults s tier roles) with
  | some fault => exact .error rfl
  | none =>
    have first := leftmost_faults_eq_none_iff.mp wrong
    have second := leftmost_faults_eq_none_iff.mp (paired.faults_eq tier roles ▸ wrong)
    exact .ok (documents tier first second)

end Paired

/-- If every fragment resolves to the same in both stores, nothing else can differ. -/
theorem compose_eq_of_outcomes (outcomes : ∀ f ∈ l.fragments, f.outcome s = f.outcome t)
    (aliases : ∀ a ∈ l.aliases, a.guard.evaluate s = a.guard.evaluate t) (requested : Value)
    (roles : List String) :
    (l.compose s requested roles).result = (l.compose t requested roles).result := by
  have contributions : ∀ f ∈ l.fragments, f.contribution s = f.contribution t := by
    intro f member
    rw [Fragment.contribution, outcomes f member, Fragment.contribution]
  have paired : l.Paired s t := by
    refine ⟨fun f member => .of_eq (outcomes f member), ?_, aliases⟩
    rw [postureFault, contributions l.posture (by simp [Sections.fragments]), postureFault]
  refine (paired.compose_agree fun tier resolves _ => ?_).eq
  have inRow : ∀ f ∈ l.sequence tier roles, f ∈ l.fragments := fun f =>
    mem_fragments_of_mem_sequence
  have statements : l.granted s (l.sequence tier roles) = l.granted t (l.sequence tier roles) := by
    rw [granted_eq_map, granted_eq_map, paired.renames_eq,
      List.flatMap_congr fun f member => contributions f (inRow f member)]
  have ids : Fragment.includedIds s (l.sequence tier roles) =
      Fragment.includedIds t (l.sequence tier roles) := by
    unfold Fragment.includedIds
    congr 1
    refine List.filter_congr fun f member => ?_
    obtain ⟨out, resolved⟩ := resolves.fragments f member
    have alsoResolved := (outcomes f (inRow f member)).symm.trans resolved
    rw [Guard.holds, Fragment.guard_of_outcome resolved, Guard.holds,
      Fragment.guard_of_outcome alsoResolved]
  exact congrArg₂ (fun row ids => Document.mk row tier roles ids l.name) statements ids

end Library
end SandboxProfile
