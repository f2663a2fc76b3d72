import SandboxProfile.Proofs.Policy.Supplied

/-! Increases. A parameter that is supplied, or a toggle that is switched on, can make a policy
longer. How much longer is read off the policy: wherever the change is felt, there is a block
of permissions more, and everything else stays as and where it is. -/
namespace SandboxProfile

/-- Bounds on the number of statements that a change adds. -/
structure Growth where
  least : Nat
  most : Nat
  deriving DecidableEq

namespace Growth

def exactly (n : Nat) : Growth := ⟨n, n⟩

def either (a b : Growth) : Growth := ⟨min a.least b.least, max a.most b.most⟩

/-- Two parts of one row, of which only one grows. -/
def beside (a b : Growth) : Option Growth :=
  if a.most = 0 then some b else if b.most = 0 then some a else none

end Growth

/-- A row, and the same row with one block more. -/
def Inserted (has : α → Prop) (g : Growth) (xs ys : List α) : Prop :=
  ∃ front block back, xs = front ++ back ∧ ys = front ++ block ++ back ∧
    g.least ≤ block.length ∧ block.length ≤ g.most ∧ ∀ a ∈ block, has a

namespace Inserted
variable {α β : Type} {has : α → Prop} {g h : Growth} {xs ys more others : List α}

theorem refl (xs : List α) : Inserted has (.exactly 0) xs xs :=
  ⟨xs, [], [], by simp, by simp, Nat.le_refl 0, Nat.le_refl 0, by simp⟩

theorem block (ys : List α) (all : ∀ a ∈ ys, has a) : Inserted has (.exactly ys.length) [] ys :=
  ⟨[], ys, [], rfl, by simp, Nat.le_refl _, Nat.le_refl _, all⟩

theorem append_left (inserted : Inserted has g xs ys) (more : List α) :
    Inserted has g (more ++ xs) (more ++ ys) := by
  obtain ⟨front, block, back, rfl, rfl, bounds⟩ := inserted
  exact ⟨more ++ front, block, back, by simp, by simp, bounds⟩

theorem append_right (inserted : Inserted has g xs ys) (more : List α) :
    Inserted has g (xs ++ more) (ys ++ more) := by
  obtain ⟨front, block, back, rfl, rfl, bounds⟩ := inserted
  exact ⟨front, block, back ++ more, by simp, by simp, bounds⟩

theorem weaken (inserted : Inserted has g xs ys) (least : h.least ≤ g.least)
    (most : g.most ≤ h.most) : Inserted has h xs ys := by
  obtain ⟨front, block, back, before, after, lower, upper, all⟩ := inserted
  exact ⟨front, block, back, before, after, least.trans lower, upper.trans most, all⟩

theorem eq (inserted : Inserted has g xs ys) (still : g.most = 0) : xs = ys := by
  obtain ⟨front, block, back, rfl, rfl, -, upper, -⟩ := inserted
  obtain rfl : block = [] := List.length_eq_zero_iff.mp (by omega)
  rw [List.append_nil]

theorem map (inserted : Inserted has g xs ys) {hasToo : β → Prop} {f : α → β}
    (next : ∀ a, has a → hasToo (f a)) : Inserted hasToo g (xs.map f) (ys.map f) := by
  obtain ⟨front, block, back, rfl, rfl, lower, upper, all⟩ := inserted
  refine ⟨front.map f, block.map f, back.map f, by simp, by simp, by simpa, by simpa, ?_⟩
  exact List.forall_mem_map.mpr fun a member => next a (all a member)

theorem beside {whole : Growth} (first : Inserted has g xs ys) (second : Inserted has h more others)
    (told : g.beside h = some whole) : Inserted has whole (xs ++ more) (ys ++ others) := by
  unfold Growth.beside at told
  split at told
  · next still =>
    obtain rfl := Option.some.inj told
    rw [first.eq still]
    exact second.append_left ys
  · split at told
    · next still =>
      obtain rfl := Option.some.inj told
      rw [second.eq still]
      exact first.append_right others
    · contradiction

end Inserted

/-- A parameter that is supplied, or a toggle that is switched on. -/
inductive Change where
  | supply (name : String)
  | switch (name : String)

namespace Change

def name : Change → String
  | .supply name => name
  | .switch name => name

/-- Of two stores, the second differs by the change; a text that is supplied is a given one. -/
def Between (value : String) : Change → Store → Store → Prop
  | .supply name => Store.Supply name value
  | .switch name => Store.SwitchOn name

/-- What a change may add: a permission, and if a text is supplied, one in which it stands. -/
def Adds (value : String) : Change → Statement → Prop
  | .supply _, a => a.action = .allow ∧ ∃ f ∈ a.filters, f.Contains value
  | .switch _, a => a.action = .allow

/-- Whether a guard holds with the change and not without it. -/
def opens : Change → Guard → Bool
  | .supply name, .isSet param => param == name
  | .switch name, .isTrue param => param == name
  | _, _ => false

/-- Whether a statement is a permission that is there with the change. -/
def permits (c : Change) (a : Statement) : Bool :=
  a.action == .allow &&
    match c with
    | .supply name => a.asksOnly name
    | .switch _ => a.isFixed

/-- How much a leaf adds, if that can be told. -/
def growth? (c : Change) (a : Statement) : Option Growth :=
  if .parameter c.name ∈ a.mentions then
    match c with
    | .supply _ => if c.permits a then some (.exactly 1) else none
    | .switch _ => none
  else some (.exactly 0)

variable {c : Change} {value : String} {s t : Store} {a : Statement}

theorem Adds.rename (adds : c.Adds value a) (renames : List (String × String)) :
    c.Adds value (a.rename renames) := by
  cases c <;> exact adds

section Between
variable (between : c.Between value s t)
include between

theorem Between.agree : s.AgreeApartFrom c.name t := by
  cases c with
  | supply name => exact Store.Supply.agree between
  | switch name => exact Store.SwitchOn.agree between

theorem evaluate_of_opens {guard : Guard} (opens : c.opens guard = true) :
    guard.evaluate s = .ok false ∧ guard.evaluate t = .ok true := by
  unfold Change.opens at opens
  split at opens
  · next name param =>
    obtain rfl := beq_iff_eq.mp opens
    have supply : Store.Supply param value s t := between
    simp only [Guard.evaluate, Store.isSet_eq, supply.unset, supply.supplied]
    exact ⟨rfl, rfl⟩
  · next name param =>
    obtain rfl := beq_iff_eq.mp opens
    have switch : Store.SwitchOn param s t := between
    exact ⟨Guard.evaluate_isTrue_eq_ok.mpr switch.off, Guard.evaluate_isTrue_eq_ok.mpr switch.on⟩
  · contradiction

theorem instantiate_of_permits (permits : c.permits a = true) :
    ∃ b, a.instantiate t = .ok (some b) ∧ c.Adds value b := by
  simp only [Change.permits, Bool.and_eq_true, beq_iff_eq] at permits
  obtain ⟨allows, told⟩ := permits
  cases c with
  | supply name =>
    obtain ⟨-, filters, contains, within⟩ := Statement.instantiate_of_asksOnly between told
    exact ⟨_, within, allows, contains⟩
  | switch name => exact ⟨a, Statement.instantiate_of_isFixed told, allows⟩

end Between
end Change

namespace Node

/-- Whether a node is a permission that is there with a change. -/
def permits (c : Change) : Node → Bool
  | .leaf a => c.permits a
  | _ => false

mutual
/-- How much a node adds with a change, if that can be told. -/
def growth? (c : Change) : Node → Option Growth
  | .leaf a => c.growth? a
  | .guarded guard body otherwise =>
    match guard with
    | .always => growthOf? c body
    | guard =>
      if c.opens guard then
        if otherwise.isEmpty && body.all (permits c) then some (.exactly body.length) else none
      else if .parameter c.name ∈ guard.mentions then none
      else
        match growthOf? c body, growthOf? c otherwise with
        | some g, some h => some (g.either h)
        | _, _ => none
  | .stray _ => some (.exactly 0)

def growthOf? (c : Change) : List Node → Option Growth
  | [] => some (.exactly 0)
  | node :: rest =>
    match growth? c node, growthOf? c rest with
    | some g, some h => g.beside h
    | _, _ => none
end

variable {c : Change} {value : String} {s t : Store}

/-- A row of permissions, each of which is there with the change. -/
theorem resolveList_of_permits (between : c.Between value s t) (id : String) {body : List Node}
    (all : body.all (permits c) = true) : ∃ bs, (resolveList t id body).result = .ok bs ∧
      bs.length = body.length ∧ ∀ b ∈ bs, c.Adds value b := by
  induction body with
  | nil => exact ⟨[], rfl, rfl, by simp⟩
  | cons node rest ih =>
    rw [List.all_cons, Bool.and_eq_true] at all
    obtain ⟨bs, later, length, adding⟩ := ih all.2
    cases node with
    | leaf a =>
      obtain ⟨b, within, adds⟩ := Change.instantiate_of_permits between all.1
      refine ⟨b :: bs, ?_, by simp [length], List.forall_mem_cons.mpr ⟨adds, adding⟩⟩
      rw [result_cons, result_leaf, within, later]
      rfl
    | guarded guard body otherwise => exact absurd all.1 (by simp [permits])
    | stray value => exact absurd all.1 (by simp [permits])

theorem leaf_inserted (between : c.Between value s t) (id : String) {a : Statement} {g : Growth}
    (told : c.growth? a = some g) : Agree Eq (Inserted (c.Adds value) g)
      (resolve s id (.leaf a)).result (resolve t id (.leaf a)).result := by
  unfold Change.growth? at told
  split at told
  · cases c with
    | switch name => contradiction
    | supply name =>
      simp only [Option.ite_none_right_eq_some, Option.some.injEq] at told
      obtain ⟨permits, rfl⟩ := told
      obtain ⟨b, within, adds⟩ := Change.instantiate_of_permits between permits
      simp only [Change.permits, Bool.and_eq_true] at permits
      obtain ⟨without, -⟩ := Statement.instantiate_of_asksOnly between permits.2
      rw [result_leaf, result_leaf, without, within]
      exact .ok (.block [b] (by simpa using adds))
  · next fresh =>
    obtain rfl := Option.some.inj told
    have leafFresh : .parameter c.name ∉ (leaf a).mentions := fresh
    have same : resolve s id (.leaf a) = resolve t id (.leaf a) :=
      resolve_eq_of_fresh between.agree leafFresh id
    rw [same]
    exact Agree.refl (fun _ => rfl) .refl _

mutual
/-- By induction on the node. A guard that the change opens has nothing behind it in the first
store and its body in the second; any other guard takes one branch in both. -/
theorem resolve_inserted (between : c.Between value s t) (id : String) :
    ∀ {node : Node} {g : Growth}, node.growth? c = some g →
      Agree Eq (Inserted (c.Adds value) g) (node.resolve s id).result (node.resolve t id).result
  | .leaf a, g, told => leaf_inserted between id told
  | .guarded guard body otherwise, g, told => by
    unfold growth? at told
    split at told
    · have branch := resolveList_inserted between id told
      rwa [result_guarded, result_guarded]
    · split at told
      · next opens =>
        simp only [Option.ite_none_right_eq_some, Option.some.injEq, Bool.and_eq_true,
          List.isEmpty_iff] at told
        obtain ⟨⟨rfl, all⟩, rfl⟩ := told
        obtain ⟨off, on⟩ := Change.evaluate_of_opens between opens
        obtain ⟨bs, within, length, adding⟩ := resolveList_of_permits between id all
        rw [result_guarded, result_guarded, off, on]
        show Agree Eq _ (.ok []) (resolveList t id body).result
        rw [within, ← length]
        exact .ok (.block bs adding)
      · split at told
        · contradiction
        · next fresh =>
          split at told
          · next first second here there =>
            obtain rfl := Option.some.inj told
            refine guarded_agree (guard.evaluate_eq_of_fresh between.agree fresh) ?_ ?_
            · exact (resolveList_inserted between id here).knowing fun _ _ _ _ inserted =>
                inserted.weaken (Nat.min_le_left _ _) (Nat.le_max_left _ _)
            · exact (resolveList_inserted between id there).knowing fun _ _ _ _ inserted =>
                inserted.weaken (Nat.min_le_right _ _) (Nat.le_max_right _ _)
          · contradiction
  | .stray value, g, told => .error rfl

theorem resolveList_inserted (between : c.Between value s t) (id : String) :
    ∀ {nodes : List Node} {g : Growth}, growthOf? c nodes = some g →
      Agree Eq (Inserted (c.Adds value) g) (resolveList s id nodes).result
        (resolveList t id nodes).result
  | [], g, told => by
    obtain rfl := Option.some.inj told
    exact .ok (.refl [])
  | node :: rest, g, told => by
    unfold growthOf? at told
    split at told
    · next first second here there =>
      rw [result_cons, result_cons]
      refine (resolve_inserted between id here).bind fun _ _ inserted => ?_
      exact (resolveList_inserted between id there).map fun _ _ also => inserted.beside also told
    · contradiction
end

end Node

/-- Two documents of which the second has one block of statements more. -/
structure Document.Increased (has : Statement → Prop) (g : Growth) (d e : Document) : Prop where
  statements : Inserted has g d.statements e.statements
  tier : e.tier = d.tier
  roles : e.roles = d.roles
  library : e.library = d.library
  fragmentIds : Inserted (fun _ => True) ⟨0, 1⟩ d.fragmentIds e.fragmentIds

theorem Document.Increased.weaken {has : Statement → Prop} {g h : Growth} {d e : Document}
    (increased : Increased has g d e) (least : h.least ≤ g.least) (most : g.most ≤ h.most) :
    Increased has h d e :=
  { increased with statements := increased.statements.weaken least most }

namespace Library
variable {l : Library} {c : Change} {f : Fragment} {g : Growth} {value : String} {s t : Store}
  {tier : Option Tier} {roles : List String}

/-- A change that is felt in one fragment of the base and nowhere else. -/
structure GrowsIn (l : Library) (c : Change) (f : Fragment) (g : Growth) : Prop where
  base : f ∈ l.base
  growth : f.node.growth? c = some g
  guard : c.opens f.guard = true ∨ .parameter c.name ∉ f.guard.mentions
  others : ∀ other ∈ l.fragments, other.id ≠ f.id → .parameter c.name ∉ other.mentions
  aliases : ∀ a ∈ l.aliases, .parameter c.name ∉ a.guard.mentions

namespace GrowsIn
variable (grows : l.GrowsIn c f g)
include grows

theorem mem_fragments : f ∈ l.fragments := by
  simp [Sections.fragments, grows.base]

theorem posture_fresh : .parameter c.name ∉ l.posture.mentions := by
  refine grows.others l.posture (by simp [Sections.fragments]) fun same => ?_
  have distinct := l.ids_nodup
  simp only [Sections.fragments, List.map_append, List.map_cons, List.cons_append,
    List.nodup_cons, List.mem_append] at distinct
  exact distinct.1 (.inl (.inl (same ▸ List.mem_map_of_mem grows.base)))

/-- In a row without repetitions, everything before and behind the fragment is the same with
the change and without it. -/
theorem exists_split (resolves : l.Resolves s tier roles) : ∃ front back,
    l.sequence tier roles = front ++ [f] ++ back ∧
      ∀ other ∈ front ++ back, .parameter c.name ∉ other.mentions := by
  have member : f ∈ l.sequence tier roles := by
    simp [sequence, following, grows.base]
  obtain ⟨front, back, split⟩ := List.append_of_mem member
  refine ⟨front, back, by simp [split], fun other beside => ?_⟩
  have inRow : other ∈ l.sequence tier roles := by
    rw [split]
    rcases List.mem_append.mp beside with before | behind
    · exact List.mem_append_left _ before
    · exact List.mem_append_right _ (List.mem_cons_of_mem _ behind)
  refine grows.others other (mem_fragments_of_mem_sequence inRow) fun same => ?_
  have distinct := resolves.distinct
  rw [split, List.map_append, List.map_cons, List.nodup_middle, ← List.map_append] at distinct
  exact (List.nodup_cons.mp distinct).1 (List.mem_map.mpr ⟨other, beside, same⟩)

section Between
variable (between : c.Between value s t)
include between

theorem inserted : Agree Eq (Inserted (c.Adds value) g) (f.node.resolve s f.id).result
    (f.node.resolve t f.id).result :=
  Node.resolve_inserted between f.id grows.growth

theorem paired : l.Paired s t where
  fragments other member := by
    by_cases same : other.id = f.id
    · obtain rfl : other = f := eq_of_id_eq member grows.mem_fragments same
      exact Fragment.endAlike_of_node (grows.inserted between)
    · exact .of_eq (Fragment.outcome_eq_of_fresh between.agree (grows.others other member same))
  posture := by
    have contributed := Fragment.contribution_eq_of_fresh between.agree grows.posture_fresh
    rw [postureFault, contributed, postureFault]
  aliases a member := Guard.evaluate_eq_of_fresh between.agree (grows.aliases a member)

theorem granted_inserted (resolves : l.Resolves s tier roles) :
    Inserted (c.Adds value) g (l.granted s [f]) (l.granted t [f]) := by
  have member : f ∈ l.sequence tier roles := by
    simp [sequence, following, grows.base]
  obtain ⟨out, resolved⟩ := resolves.fragments f member
  have contributed := Fragment.contribution_of_node (grows.inserted between) fun absent =>
    absurd resolved (absent out)
  rw [granted_eq_map, granted_eq_map, List.flatMap_singleton, List.flatMap_singleton,
    ← (grows.paired between).renames_eq]
  exact contributed.map fun a adds => adds.rename _

theorem includedIds_inserted :
    Inserted (fun _ => True) ⟨0, 1⟩ (Fragment.includedIds s [f]) (Fragment.includedIds t [f]) := by
  rcases grows.guard with opens | fresh
  · obtain ⟨off, on⟩ := Change.evaluate_of_opens between opens
    have before : Fragment.includedIds s [f] = [] := by
      simp [Fragment.includedIds, Guard.holds, off]
    have after : Fragment.includedIds t [f] = [f.id] := by
      simp [Fragment.includedIds, Guard.holds, on]
    rw [before, after]
    exact (Inserted.block [f.id] fun _ _ => trivial).weaken (Nat.zero_le _) (Nat.le_refl 1)
  · have same : f.guard.holds s = f.guard.holds t := Guard.holds_eq_of_fresh between.agree fresh
    have ids : Fragment.includedIds s [f] = Fragment.includedIds t [f] := by
      simp only [Fragment.includedIds, List.filter_cons, List.filter_nil, same]
    rw [ids]
    exact (Inserted.refl _).weaken (Nat.le_refl 0) (Nat.zero_le 1)

/-- With the change and without it there is the same fault, or there are two documents that
are equal but for what the one fragment adds. -/
theorem compose_increased (requested : Value) (roles : List String) :
    Agree Eq (Document.Increased (c.Adds value) g) (l.compose s requested roles).result
      (l.compose t requested roles).result := by
  have paired := grows.paired between
  refine paired.compose_agree fun tier resolves _ => ⟨?_, rfl, rfl, rfl, ?_⟩
  all_goals
    obtain ⟨front, back, split, fresh⟩ := grows.exists_split resolves
    obtain ⟨before, behind⟩ := List.forall_mem_append.mp fresh
  · rw [statements_eq_granted, statements_eq_granted, split]
    simp only [granted_append]
    rw [paired.granted_eq between.agree before, paired.granted_eq between.agree behind]
    exact ((grows.granted_inserted between resolves).append_left _).append_right _
  · rw [fragmentIds_eq_includedIds, fragmentIds_eq_includedIds, split]
    simp only [Fragment.includedIds_append]
    rw [Fragment.includedIds_eq_of_fresh between.agree before,
      Fragment.includedIds_eq_of_fresh between.agree behind]
    exact ((grows.includedIds_inserted between).append_left _).append_right _

end Between
end GrowsIn
end Library
end SandboxProfile
