import SandboxProfile.Policy.Compose
import SandboxProfile.Proofs.Outcome

/-! Composition without state. Every fragment is resolved on its own, and what is
composed is the row of their contributions. If something is wrong, the leftmost
fault is the fault of the whole. -/
namespace SandboxProfile

/-- The first of some possible faults that there is. -/
def leftmost (faults : List (Option α)) : Option α := faults.findSome? fun fault => fault

@[simp] theorem leftmost_nil : leftmost ([] : List (Option α)) = none := rfl

@[simp] theorem leftmost_some (fault : α) (rest : List (Option α)) :
    leftmost (some fault :: rest) = some fault := rfl

@[simp] theorem leftmost_none (rest : List (Option α)) :
    leftmost (none :: rest) = leftmost rest := rfl

theorem leftmost_cons (fault : Option α) (rest : List (Option α)) :
    leftmost (fault :: rest) = fault.or (leftmost rest) := by
  cases fault <;> rfl

theorem leftmost_append (first rest : List (Option α)) :
    leftmost (first ++ rest) = (leftmost first).or (leftmost rest) :=
  List.findSome?_append

theorem leftmost_eq_none_iff {faults : List (Option α)} :
    leftmost faults = none ↔ ∀ fault ∈ faults, fault = none := by
  simp [leftmost, List.findSome?_eq_none_iff]

def Guard.holds (store : Store) (g : Guard) : Bool :=
  match g.evaluate store with
  | .ok b => b
  | .error _ => false

namespace Guard
variable {store : Store} {param : String}

theorem holds_iff {g : Guard} : g.holds store = true ↔ g.evaluate store = .ok true := by
  unfold holds
  cases g.evaluate store <;> simp

theorem evaluate_isTrue_eq_ok {on : Bool} :
    (isTrue param).evaluate store = .ok on ↔ store.setting param = .ok (some (.flag on)) := by
  simp only [evaluate, toggleHolds]
  rcases store.setting param with fault | _ | on | i | text <;>
    simp [throw, throwThe, MonadExceptOf.throw, pure, Except.pure]

theorem holds_isTrue {on : Bool} (toggle : store.setting param = .ok (some (.flag on))) :
    (isTrue param).holds store = on := by
  rw [holds, evaluate_isTrue_eq_ok.mpr toggle]

theorem holds_compare {op : Comparison} {value i : Int}
    (number : store.setting param = .ok (some (.number i))) :
    (compare param op value).holds store = op.holds i value := by
  simp only [holds, evaluate, compareHolds, number]
  rfl

theorem holds_defined {primitive : String} :
    (defined primitive).holds store = true ↔ store.defines primitive = .ok true := by
  simp only [holds, evaluate]
  rcases store.defines primitive with fault | known <;> simp

end Guard

namespace Fragment

/-- What a fragment resolves to on its own. -/
def outcome (store : Store) (f : Fragment) : Except PolicyFault (Option (List Statement)) :=
  (f.resolve store).result

/-- The statements of a fragment on its own; none if its guard is false. -/
def contribution (store : Store) (f : Fragment) : List Statement :=
  match f.outcome store with
  | .ok (some statements) => statements
  | _ => []

/-- What is wrong with a fragment behind fragments with the given ids. -/
def faultBehind (store : Store) (earlier : List String) (f : Fragment) : Option ComposeFault :=
  if f.id ∈ earlier then some (.duplicateFragment f.id)
  else
    match f.outcome store with
    | .error fault => some (.inFragment f.id fault)
    | .ok _ => none

/-- What is wrong with each fragment of a row, the row standing behind fragments
with the given ids. -/
def faultsBehind (store : Store) (earlier : List String) (fs : List Fragment) :
    List (Option ComposeFault) :=
  fs.mapIdx fun i f => f.faultBehind store (earlier ++ (fs.take i).map (·.id))

end Fragment

def AliasSet.fault (store : Store) (a : AliasSet) : Option ComposeFault :=
  match a.guard.evaluate store with
  | .error fault => some (.inAlias fault)
  | .ok _ => none

/-- The levels that a tier stands for, the most restrictive one first. -/
def Tier.levels : Option Tier → List Tier
  | none => []
  | some .level1 => [.level3, .level2, .level1]
  | some .level2 => [.level3, .level2]
  | some .level3 => [.level3]

namespace Library

/-- The fragments behind the posture: the base, the levels of the tier as far as they
are declared, and the addendum of each role. -/
def following (l : Library) (tier : Option Tier) (roles : List String) : List Fragment :=
  l.base ++ (Tier.levels tier).flatMap (fun t => (l.tier? t).getD []) ++
    roles.flatMap fun role => (l.addendum? role).getD []

/-- The fragments of a composition in their order. -/
def sequence (l : Library) (tier : Option Tier) (roles : List String) : List Fragment :=
  l.posture :: l.following tier roles

def postureFault (l : Library) (store : Store) : Option ComposeFault :=
  if ((l.posture.contribution store).head?.map Statement.isDenyDefault).getD false then none
  else some (.openPosture l.name l.posture.id)

/-- Everything that can be wrong, in the order in which it counts. -/
def faults (l : Library) (store : Store) (tier : Option Tier) (roles : List String) :
    List (Option ComposeFault) :=
  l.posture.faultBehind store [] :: l.postureFault store ::
    Fragment.faultsBehind store [l.posture.id] (l.following tier roles) ++
    l.aliases.map (AliasSet.fault store)

/-- The pairs of the alias sets in force, in the order of their declaration. -/
def pairsInForce (store : Store) (aliases : List AliasSet) : List (String × String) :=
  (aliases.filter fun a => a.guard.holds store).flatMap (·.renames)

/-- The document of fragments that were resolved one by one. Of two pairs for one
operation the later one counts. -/
def assembled (l : Library) (store : Store) (tier : Option Tier) (roles : List String) :
    Document where
  statements := ((l.sequence tier roles).flatMap (Fragment.contribution store)).map
    (Statement.rename (pairsInForce store l.aliases).reverse)
  tier := tier
  roles := roles
  fragmentIds := ((l.sequence tier roles).filter fun f => f.guard.holds store).map (·.id)
  library := l.name

/-- Nothing is wrong with a composition. -/
structure Resolves (l : Library) (store : Store) (tier : Option Tier) (roles : List String) :
    Prop where
  fragments : ∀ f ∈ l.sequence tier roles, ∃ out, f.outcome store = .ok out
  distinct : ((l.sequence tier roles).map (·.id)).Nodup
  posture : ∃ first rest, l.posture.contribution store = first :: rest ∧
    first.isDenyDefault = true
  aliases : ∀ a ∈ l.aliases, ∃ active, a.guard.evaluate store = .ok active

end Library

namespace Fragment
variable {store : Store} {f : Fragment} {earlier : List String}

theorem outcome_eq : f.outcome store = (f.guard.evaluate store).bind fun holds =>
    if holds then (Node.resolveList store f.id f.body).result.map some else .ok none := by
  rw [outcome, resolve, Traced.result_bind, Traced.result_ofExcept]
  cases f.guard.evaluate store with
  | error fault => rfl
  | ok holds =>
    cases holds with
    | false => rfl
    | true =>
      simp only [bind, Except.bind, ↓reduceIte]
      cases h : (Node.resolveList store f.id f.body).result <;>
        simp [Traced.bind, h, Except.map, pure, Traced.pure]

/-- A fragment that resolves has a guard, which is true when statements come out. -/
theorem guard_of_outcome {out : Option (List Statement)} (resolved : f.outcome store = .ok out) :
    f.guard.evaluate store = .ok out.isSome := by
  rw [outcome_eq] at resolved
  cases guard : f.guard.evaluate store with
  | error fault => rw [guard] at resolved; contradiction
  | ok holds =>
    rw [guard] at resolved
    cases holds with
    | false =>
      obtain rfl := Except.ok.inj resolved
      rfl
    | true =>
      simp only [Except.bind, ↓reduceIte] at resolved
      cases body : (Node.resolveList store f.id f.body).result with
      | error fault => rw [body] at resolved; contradiction
      | ok statements =>
        rw [body] at resolved
        obtain rfl := Except.ok.inj resolved
        rfl

theorem faultBehind_eq_none_iff : f.faultBehind store earlier = none ↔
    f.id ∉ earlier ∧ ∃ out, f.outcome store = .ok out := by
  unfold faultBehind
  by_cases repeated : f.id ∈ earlier
  · simp [repeated]
  · cases f.outcome store <;> simp [repeated]

theorem faultsBehind_cons (rest : List Fragment) :
    faultsBehind store earlier (f :: rest) =
      f.faultBehind store earlier :: faultsBehind store (earlier ++ [f.id]) rest := by
  simp [faultsBehind, List.mapIdx_cons]

/-- Nothing is wrong with a row: all of it resolves, and no id is there twice. -/
theorem leftmost_faultsBehind_eq_none_iff {fs : List Fragment} :
    leftmost (faultsBehind store earlier fs) = none ↔
      (∀ f ∈ fs, ∃ out, f.outcome store = .ok out) ∧ (fs.map (·.id)).Nodup ∧
        ∀ f ∈ fs, f.id ∉ earlier := by
  induction fs generalizing earlier with
  | nil => simp [faultsBehind]
  | cons f rest ih =>
    rw [faultsBehind_cons]
    cases wrong : f.faultBehind store earlier with
    | some fault =>
      have notNone : ¬(f.id ∉ earlier ∧ ∃ out, f.outcome store = .ok out) := by
        rw [← faultBehind_eq_none_iff, wrong]
        simp
      simp only [leftmost_some, reduceCtorEq, List.mem_cons, forall_eq_or_imp, false_iff]
      rintro ⟨⟨resolved, -⟩, -, fresh, -⟩
      exact notNone ⟨fresh, resolved⟩
    | none =>
      obtain ⟨fresh, resolved⟩ := faultBehind_eq_none_iff.mp wrong
      simp only [leftmost_none, ih, List.mem_cons, forall_eq_or_imp, resolved, true_and,
        List.map_cons, List.nodup_cons, fresh, not_false_eq_true, List.mem_append, List.not_mem_nil,
        or_false, not_or]
      constructor
      · rintro ⟨others, distinct, different⟩
        refine ⟨others, ⟨fun member => ?_, distinct⟩, fun g hg => (different g hg).1⟩
        obtain ⟨g, hg, same⟩ := List.mem_map.mp member
        exact (different g hg).2 same
      · rintro ⟨others, ⟨single, distinct⟩, later⟩
        exact ⟨others, distinct, fun g hg =>
          ⟨later g hg, fun same => single (List.mem_map.mpr ⟨g, hg, same⟩)⟩⟩

end Fragment

namespace Assembly
variable (store : Store)

/-- One fragment: the assembly is extended by what the fragment contributes on its
own, or the fault of the fragment is the fault of the step. -/
theorem add_result (statements : List Statement) (ids earlier : List String) (f : Fragment) :
    (add store ⟨statements, ids, earlier.reverse⟩ f).result =
      match f.faultBehind store earlier with
      | some fault => .error fault
      | none => .ok ⟨statements ++ f.contribution store,
          ids ++ (if f.guard.holds store then [f.id] else []), (earlier ++ [f.id]).reverse⟩ := by
  unfold add Fragment.faultBehind
  by_cases repeated : f.id ∈ earlier
  · simp [repeated]
  · have unseen : earlier.reverse.contains f.id = false := by simpa using repeated
    simp only [unseen, repeated, Bool.false_eq_true, ↓reduceIte]
    have alone : (f.resolve store).result = f.outcome store := rfl
    rcases resolved : f.resolve store with ⟨notes, fault | out⟩
    · rw [resolved] at alone
      simp [← alone]
    · rw [resolved] at alone
      have guard := Fragment.guard_of_outcome alone.symm
      cases out with
      | none => simp [← alone, Fragment.contribution, Guard.holds, guard]
      | some contributed => simp [← alone, Fragment.contribution, Guard.holds, guard]

/-- A row of fragments, by induction on it: the ids seen so far are all that one
step has to know of those before it. -/
theorem addAll_result (statements : List Statement) (ids earlier : List String)
    (fs : List Fragment) :
    (addAll store ⟨statements, ids, earlier.reverse⟩ fs).result =
      match leftmost (Fragment.faultsBehind store earlier fs) with
      | some fault => .error fault
      | none => .ok ⟨statements ++ fs.flatMap (Fragment.contribution store),
          ids ++ (fs.filter fun f => f.guard.holds store).map (·.id),
          (earlier ++ fs.map (·.id)).reverse⟩ := by
  induction fs generalizing statements ids earlier with
  | nil => simp [addAll, Fragment.faultsBehind]
  | cons f rest ih =>
    rw [addAll, Traced.result_bind, add_result, Fragment.faultsBehind_cons]
    cases wrong : f.faultBehind store earlier with
    | some fault => rfl
    | none =>
      simp only [bind, Except.bind, leftmost_none]
      rw [ih]
      cases leftmost (Fragment.faultsBehind store (earlier ++ [f.id]) rest) with
      | some fault => rfl
      | none => cases holds : f.guard.holds store <;> simp [holds]

end Assembly

namespace Library
variable {l : Library} {store : Store} {tier : Option Tier} {roles : List String}

/-- The renames in force, or the fault of the first alias set that has one. -/
theorem activeRenames_eq (aliases : List AliasSet) :
    (activeRenames store aliases).mapError ComposeFault.inAlias =
      match leftmost (aliases.map (AliasSet.fault store)) with
      | some fault => .error fault
      | none => .ok (pairsInForce store aliases).reverse := by
  induction aliases with
  | nil => rfl
  | cons a rest ih =>
    rw [List.map_cons]
    cases guard : a.guard.evaluate store with
    | error fault => simp [activeRenames, AliasSet.fault, guard]
    | ok active =>
      have split : activeRenames store (a :: rest) = (activeRenames store rest).map
          (· ++ if active then a.renames.reverse else []) := by
        rw [activeRenames, guard]
        cases activeRenames store rest <;> rfl
      have fine : a.fault store = none := by simp [AliasSet.fault, guard]
      rw [split, Outcome.mapError_map, ih, fine, leftmost_none]
      cases leftmost (rest.map (AliasSet.fault store)) with
      | some fault => rfl
      | none => cases active <;> simp [pairsInForce, Guard.holds, guard, Except.map]

theorem considered_eq_following : l.considered tier roles = l.following tier roles := by
  cases tier with
  | none => rfl
  | some t => cases t <;> rfl

/-- A composition is what its fragments are one by one, or its leftmost fault. -/
theorem composeSelected_result :
    (l.composeSelected store tier roles).result =
      match leftmost (l.faults store tier roles) with
      | some fault => .error fault
      | none => .ok (l.assembled store tier roles) := by
  have opening := Assembly.add_result store [] [] [] l.posture
  have rest := Assembly.addAll_result store (l.posture.contribution store)
    (if l.posture.guard.holds store then [l.posture.id] else []) [l.posture.id]
    (l.following tier roles)
  simp only [List.reverse_nil, List.nil_append, List.reverse_singleton] at opening rest
  rw [composeSelected, considered_eq_following, Traced.result_bind, Assembly.empty, opening,
    faults, List.cons_append, List.cons_append]
  cases l.posture.faultBehind store [] with
  | some fault => rfl
  | none =>
    simp only [Outcome.ok_bind, leftmost_none, postureFault]
    generalize ((l.posture.contribution store).head?.map Statement.isDenyDefault).getD false =
      denies
    cases denies with
    | false => rfl
    | true =>
      simp only [↓reduceIte, Traced.result_bind, Traced.result_pure, rest, leftmost_none,
        leftmost_append]
      cases leftmost (Fragment.faultsBehind store [l.posture.id] (l.following tier roles)) with
      | some fault => rfl
      | none =>
        simp only [Outcome.ok_bind, Traced.result_ofExcept, activeRenames_eq, Option.none_or]
        cases leftmost (l.aliases.map (AliasSet.fault store)) with
        | some fault => rfl
        | none =>
          simp only [Outcome.ok_bind, Traced.result_note, assembled, sequence, List.flatMap_cons]
          cases holds : l.posture.guard.holds store <;> simp [holds]

theorem postureFault_eq_none_iff : l.postureFault store = none ↔
    ∃ first rest, l.posture.contribution store = first :: rest ∧ first.isDenyDefault = true := by
  unfold postureFault
  cases l.posture.contribution store with
  | nil => simp
  | cons first rest => cases denies : first.isDenyDefault <;> simp [denies]

theorem leftmost_aliasFaults_eq_none_iff {aliases : List AliasSet} :
    leftmost (aliases.map (AliasSet.fault store)) = none ↔
      ∀ a ∈ aliases, ∃ active, a.guard.evaluate store = .ok active := by
  simp only [leftmost_eq_none_iff, List.mem_map, forall_exists_index, and_imp,
    forall_apply_eq_imp_iff₂]
  apply forall₂_congr
  intro a _
  cases guard : a.guard.evaluate store <;> simp [AliasSet.fault, guard]

theorem leftmost_faults_eq_none_iff :
    leftmost (l.faults store tier roles) = none ↔ l.Resolves store tier roles := by
  have parts : leftmost (l.faults store tier roles) = none ↔
      ((l.posture.faultBehind store [] = none ∧ l.postureFault store = none ∧
        leftmost (Fragment.faultsBehind store [l.posture.id] (l.following tier roles)) = none) ∧
        leftmost (l.aliases.map (AliasSet.fault store)) = none) := by
    simp only [faults, leftmost_eq_none_iff, List.forall_mem_append, List.forall_mem_cons]
  rw [parts, Fragment.faultBehind_eq_none_iff, postureFault_eq_none_iff,
    Fragment.leftmost_faultsBehind_eq_none_iff, leftmost_aliasFaults_eq_none_iff]
  constructor
  · rintro ⟨⟨⟨-, posture⟩, denies, others, distinct, fresh⟩, guards⟩
    refine ⟨?_, ?_, denies, guards⟩
    · exact List.forall_mem_cons.mpr ⟨posture, others⟩
    · refine List.nodup_cons.mpr ⟨fun member => ?_, distinct⟩
      obtain ⟨f, hf, same⟩ := List.mem_map.mp member
      exact fresh f hf (List.mem_singleton.mpr same)
  · rintro ⟨fragments, distinct, denies, guards⟩
    obtain ⟨posture, others⟩ := List.forall_mem_cons.mp fragments
    obtain ⟨single, rest⟩ := List.nodup_cons.mp distinct
    refine ⟨⟨⟨List.not_mem_nil, posture⟩, denies, others, rest, fun f hf member => ?_⟩, guards⟩
    exact single (List.mem_map.mpr ⟨f, hf, List.mem_singleton.mp member⟩)

theorem checkTier_eq_ok_iff : l.checkTier tier = .ok () ↔ ∀ t ∈ tier, (l.tier? t).isSome := by
  cases tier with
  | none => simp [checkTier]
  | some t => cases declared : (l.tier? t).isSome <;> simp [checkTier, declared]

theorem checkRoles_eq_ok_iff :
    l.checkRoles roles = .ok () ↔ ∀ r ∈ roles, (l.addendum? r).isSome := by
  unfold checkRoles
  cases unknown : roles.find? fun r => (l.addendum? r).isNone with
  | none => simpa [List.find?_eq_none, Option.isSome_iff_ne_none] using unknown
  | some role =>
    have missing := List.find?_some unknown
    have member := List.mem_of_find?_eq_some unknown
    simp only [reduceCtorEq, false_iff]
    intro known
    have present := known role member
    rw [Option.isNone_iff_eq_none.mp missing] at present
    contradiction

/-- A declared tier and known roles come to the composition proper. -/
theorem compose_of_valid {requested : Value} (asked : selectTier requested = .ok tier)
    (declared : ∀ t ∈ tier, (l.tier? t).isSome) (known : ∀ r ∈ roles, (l.addendum? r).isSome) :
    (l.compose store requested roles).result = (l.composeSelected store tier roles).result := by
  simp only [compose, composeChosen, Traced.result_bind, Traced.result_ofExcept, asked,
    checkTier_eq_ok_iff.mpr declared, checkRoles_eq_ok_iff.mpr known, Outcome.ok_bind]

/-- Everything about a document that was composed. -/
theorem compose_eq_ok_iff {requested : Value} {d : Document} :
    (l.compose store requested roles).result = .ok d ↔
      ∃ tier, selectTier requested = .ok tier ∧ (∀ t ∈ tier, (l.tier? t).isSome) ∧
        (∀ r ∈ roles, (l.addendum? r).isSome) ∧ l.Resolves store tier roles ∧
        l.assembled store tier roles = d := by
  constructor
  · intro composed
    simp only [compose, composeChosen, Traced.result_bind, Traced.result_ofExcept,
      Outcome.bind_eq_ok] at composed
    obtain ⟨tier, asked, _, tierFine, _, rolesFine, composed⟩ := composed
    refine ⟨tier, asked, checkTier_eq_ok_iff.mp tierFine, checkRoles_eq_ok_iff.mp rolesFine, ?_⟩
    rw [composeSelected_result] at composed
    cases wrong : leftmost (l.faults store tier roles) with
    | some fault => rw [wrong] at composed; contradiction
    | none =>
      rw [wrong] at composed
      exact ⟨leftmost_faults_eq_none_iff.mp wrong, Except.ok.inj composed⟩
  · rintro ⟨tier, asked, declared, known, resolves, rfl⟩
    rw [compose_of_valid asked declared known, composeSelected_result,
      leftmost_faults_eq_none_iff.mpr resolves]

/-- A composition for a declared tier and known roles resolves every fragment on its
own. If all of that works out, the document is the row of the contributions with the
renames in force; otherwise there is no document, and the leftmost fault is given. -/
theorem compose_eq_assembled {requested : Value} (asked : selectTier requested = .ok tier)
    (declared : ∀ t ∈ tier, (l.tier? t).isSome) (known : ∀ r ∈ roles, (l.addendum? r).isSome) :
    (l.Resolves store tier roles →
      (l.compose store requested roles).result = .ok (l.assembled store tier roles)) ∧
    (¬l.Resolves store tier roles →
      ∃ fault, leftmost (l.faults store tier roles) = some fault ∧
        (l.compose store requested roles).result = .error fault) := by
  rw [compose_of_valid asked declared known, composeSelected_result,
    ← leftmost_faults_eq_none_iff]
  constructor
  · intro fine
    rw [fine]
  · intro wrong
    obtain ⟨fault, first⟩ := Option.ne_none_iff_exists'.mp wrong
    exact ⟨fault, first, by rw [first]⟩

def emptyStore : Store := (Store.create none none).freeze

/-- A fragment that allows one operation everywhere. -/
private def allowing (id operation : String) : Fragment :=
  ⟨id, [.leaf ⟨.allow, [operation], [], [], none⟩], .always, ""⟩

/-- A library with one fragment in each of its sections, and one rename. -/
def layeredLibrary : Library where
  name := "layered"
  posture := ⟨"posture", [.leaf ⟨.deny, ["default"], [], [], none⟩], .always, ""⟩
  base := [allowing "base" "sysctl-read"]
  tiers := [(.level2, [allowing "tier-2" "file-read*"]), (.level3, [allowing "tier-3" "signal"])]
  addenda := [("file", [allowing "file" "file-write*"])]
  aliases := [⟨.always, [("signal", "process-info*")]⟩]
  ids_nodup := by decide

theorem compose_eq_assembled_layered :
    selectTier (.int 2) = .ok (some .level2) ∧
    (∀ t ∈ some Tier.level2, (layeredLibrary.tier? t).isSome) ∧
    (∀ r ∈ ["file", "file"], (layeredLibrary.addendum? r).isSome) ∧
    (layeredLibrary.compose emptyStore (.int 2) ["file"]).result =
      .ok (layeredLibrary.assembled emptyStore (some .level2) ["file"]) ∧
    (layeredLibrary.compose emptyStore (.int 2) ["file", "file"]).result =
      .error (.duplicateFragment "file") := by
  have asked : selectTier (.int 2) = .ok (some .level2) := rfl
  have declared : ∀ t ∈ some Tier.level2, (layeredLibrary.tier? t).isSome := by decide
  have known : ∀ r ∈ ["file", "file"], (layeredLibrary.addendum? r).isSome := by decide
  have resolves : layeredLibrary.Resolves emptyStore (some .level2) ["file"] :=
    leftmost_faults_eq_none_iff.mp rfl
  have repeats : ¬layeredLibrary.Resolves emptyStore (some .level2) ["file", "file"] :=
    fun fine => absurd (leftmost_faults_eq_none_iff.mpr fine) (by decide)
  refine ⟨asked, declared, known, ?_, ?_⟩
  · exact (compose_eq_assembled asked declared fun r member =>
      known r (List.mem_cons_of_mem "file" member)).1 resolves
  · obtain ⟨fault, first, composed⟩ := (compose_eq_assembled asked declared known).2 repeats
    obtain rfl : fault = .duplicateFragment "file" := Option.some.inj (first.symm.trans rfl)
    exact composed

end Library
end SandboxProfile
