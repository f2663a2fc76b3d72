import SandboxProfile.Proofs.Policy.Twin

/-! Confinement of values. Two stores that differ in texts only give, for a sealed
library, faults of one kind in one fragment, or two documents whose texts read with one
outline: no value can add, remove or move a part of a policy. -/
namespace SandboxProfile

theorem leftmost_rel {α β : Type} {E : α → β → Prop} {faults : List (Option α)}
    {others : List (Option β)} (row : List.Forall₂ (Option.Rel E) faults others) :
    Option.Rel E (leftmost faults) (leftmost others) := by
  induction row with
  | nil => exact .none
  | cons first _ ih =>
    cases first with
    | none => exact ih
    | some related => exact .some related

/-- The family of a fault tells whether it is one of parameters or of the assembly. -/
theorem PolicyFault.isOwn_eq (e : PolicyFault) :
    e.isOwn = (e.family != .malformedPolicy && e.family != .unreadableValue) := by
  cases e with
  | parameter fault => cases fault <;> rfl
  | _ => rfl

/-- Two faults of one family in one fragment. -/
structure ComposeFault.Alike (e f : ComposeFault) : Prop where
  family : e.family = f.family
  fragment : e.fragment? = f.fragment?

theorem ComposeFault.Alike.refl (e : ComposeFault) : e.Alike e := ⟨rfl, rfl⟩

theorem ComposeFault.alike_inFragment (id : String) {e f : PolicyFault} (same : e.SameFamily f) :
    (inFragment id e).Alike (inFragment id f) where
  family := same
  fragment := by
    have family : e.family = f.family := same
    rw [fragment?, fragment?, e.isOwn_eq, f.isOwn_eq, family]

variable {paths : List String} {s t : Store}

theorem Guard.holds_eq (twins : s.Twins t) {g : Guard} (free : g.comparesText = false) :
    g.holds s = g.holds t := by
  have agree := evaluate_agree twins g free
  unfold holds
  generalize g.evaluate s = x at agree
  generalize g.evaluate t = y at agree
  cases agree with
  | ok same => exact same
  | error same => rfl

namespace Fragment
variable {f : Fragment}

theorem outcome_agree (pair : Store.Pair paths s t) (isSealed : f.isSealed paths = true) :
    Agree PolicyFault.SameFamily (Option.Rel (List.Forall₂ Statement.Twins))
      (f.outcome s) (f.outcome t) := by
  simp only [Fragment.isSealed, Bool.and_eq_true, Bool.not_eq_true'] at isSealed
  rw [outcome_eq, outcome_eq]
  exact (f.guard.evaluate_agree pair.twins isSealed.1).branch
    ((Node.resolveList_agree pair f.id f.body isSealed.2).map fun _ _ => .some) (.ok .none)

theorem contribution_twins (pair : Store.Pair paths s t) (isSealed : f.isSealed paths = true) :
    List.Forall₂ Statement.Twins (f.contribution s) (f.contribution t) := by
  have agree := outcome_agree pair isSealed
  unfold contribution
  generalize f.outcome s = x at agree
  generalize f.outcome t = y at agree
  cases agree with
  | error _ => exact .nil
  | ok related =>
    cases related with
    | none => exact .nil
    | some row => exact row

theorem faultBehind_alike (pair : Store.Pair paths s t) (isSealed : f.isSealed paths = true)
    (earlier : List String) :
    Option.Rel ComposeFault.Alike (f.faultBehind s earlier) (f.faultBehind t earlier) := by
  unfold faultBehind
  by_cases repeated : f.id ∈ earlier
  · simp only [repeated, ↓reduceIte]
    exact .some (.refl _)
  · simp only [repeated, ↓reduceIte]
    have agree := outcome_agree pair isSealed
    generalize f.outcome s = x at agree
    generalize f.outcome t = y at agree
    cases agree with
    | ok _ => exact .none
    | error same => exact .some (ComposeFault.alike_inFragment f.id same)

theorem faultsBehind_alike (pair : Store.Pair paths s t) {fs : List Fragment}
    (isSealed : ∀ f ∈ fs, f.isSealed paths = true) (earlier : List String) :
    List.Forall₂ (Option.Rel ComposeFault.Alike) (faultsBehind s earlier fs)
      (faultsBehind t earlier fs) := by
  induction fs generalizing earlier with
  | nil => exact .nil
  | cons f rest ih =>
    rw [faultsBehind_cons, faultsBehind_cons]
    exact .cons (faultBehind_alike pair (isSealed f List.mem_cons_self) earlier)
      (ih (fun g member => isSealed g (List.mem_cons_of_mem f member)) _)

end Fragment

theorem AliasSet.fault_alike (twins : s.Twins t) {a : AliasSet} (isSealed : a.isSealed = true) :
    Option.Rel ComposeFault.Alike (a.fault s) (a.fault t) := by
  simp only [AliasSet.isSealed, Bool.and_eq_true, Bool.not_eq_true'] at isSealed
  have agree := a.guard.evaluate_agree twins isSealed.1
  unfold fault
  generalize a.guard.evaluate s = x at agree
  generalize a.guard.evaluate t = y at agree
  cases agree with
  | ok _ => exact .none
  | error same => exact .some ⟨same, rfl⟩

namespace Library
variable {l : Library}

structure Sealed (paths : List String) (l : Library) : Prop where
  fragments : ∀ f ∈ l.fragments, f.isSealed paths = true
  aliases : ∀ a ∈ l.aliases, a.isSealed = true

theorem isSealed_iff : l.isSealed paths = true ↔ l.Sealed paths := by
  rw [isSealed, Bool.and_eq_true, List.all_eq_true, List.all_eq_true]
  exact ⟨fun ⟨fragments, aliases⟩ => ⟨fragments, aliases⟩, fun h => ⟨h.fragments, h.aliases⟩⟩

variable {tier : Option Tier} {roles : List String}

theorem contributions_twins (pair : Store.Pair paths s t) {fs : List Fragment}
    (isSealed : ∀ f ∈ fs, f.isSealed paths = true) :
    List.Forall₂ Statement.Twins (fs.flatMap (Fragment.contribution s))
      (fs.flatMap (Fragment.contribution t)) := by
  induction fs with
  | nil => exact .nil
  | cons f rest ih =>
    rw [List.flatMap_cons, List.flatMap_cons]
    exact List.rel_append (Fragment.contribution_twins pair (isSealed f List.mem_cons_self))
      (ih fun g member => isSealed g (List.mem_cons_of_mem f member))

theorem postureFault_alike (pair : Store.Pair paths s t)
    (isSealed : l.posture.isSealed paths = true) :
    Option.Rel ComposeFault.Alike (l.postureFault s) (l.postureFault t) := by
  have row := Fragment.contribution_twins pair isSealed
  have opening : (l.posture.contribution s).head?.map Statement.isDenyDefault =
      (l.posture.contribution t).head?.map Statement.isDenyDefault := by
    generalize l.posture.contribution s = left at row
    generalize l.posture.contribution t = right at row
    cases row with
    | nil => rfl
    | cons first _ => exact congrArg some first.isDenyDefault
  unfold postureFault
  rw [opening]
  split
  · exact .none
  · exact .some (.refl _)

theorem faults_alike (pair : Store.Pair paths s t) (isSealed : l.Sealed paths)
    (tier : Option Tier) (roles : List String) :
    List.Forall₂ (Option.Rel ComposeFault.Alike) (l.faults s tier roles)
      (l.faults t tier roles) := by
  have fragments : ∀ f ∈ l.sequence tier roles, f.isSealed paths = true :=
    fun f member => isSealed.fragments f (mem_fragments_of_mem_sequence member)
  obtain ⟨posture, following⟩ := List.forall_mem_cons.mp fragments
  have aliases : List.Forall₂ (Option.Rel ComposeFault.Alike) (l.aliases.map (AliasSet.fault s))
      (l.aliases.map (AliasSet.fault t)) := by
    rw [List.forall₂_map_left_iff, List.forall₂_map_right_iff, List.forall₂_same]
    exact fun a member => AliasSet.fault_alike pair.twins (isSealed.aliases a member)
  exact List.rel_append
    (.cons (Fragment.faultBehind_alike pair posture [])
      (.cons (postureFault_alike pair posture) (Fragment.faultsBehind_alike pair following _)))
    aliases

theorem pairsInForce_eq (twins : s.Twins t) {aliases : List AliasSet}
    (isSealed : ∀ a ∈ aliases, a.isSealed = true) :
    pairsInForce s aliases = pairsInForce t aliases := by
  unfold pairsInForce
  congr 1
  apply List.filter_congr
  intro a member
  have free := isSealed a member
  simp only [AliasSet.isSealed, Bool.and_eq_true, Bool.not_eq_true'] at free
  exact Guard.holds_eq twins free.1

theorem pairsInForce_plain {aliases : List AliasSet}
    (isSealed : ∀ a ∈ aliases, a.isSealed = true) :
    ∀ pair ∈ pairsInForce s aliases, Form.isPlainName pair.2 = true := by
  intro pair member
  obtain ⟨a, inForce, renamed⟩ := List.mem_flatMap.mp member
  have plain := isSealed a (List.mem_filter.mp inForce).1
  simp only [AliasSet.isSealed, Bool.and_eq_true, List.all_eq_true] at plain
  exact plain.2 pair renamed

theorem assembled_twins (pair : Store.Pair paths s t) (isSealed : l.Sealed paths) :
    List.Forall₂ Statement.Twins (l.assembled s tier roles).statements
      (l.assembled t tier roles).statements := by
  have contributed := contributions_twins pair fun f (member : f ∈ l.sequence tier roles) =>
    isSealed.fragments f (mem_fragments_of_mem_sequence member)
  have plain : ∀ pair ∈ (pairsInForce t l.aliases).reverse, Form.isPlainName pair.2 = true :=
    fun pair member => pairsInForce_plain isSealed.aliases pair (List.mem_reverse.mp member)
  unfold assembled
  rw [pairsInForce_eq pair.twins isSealed.aliases, List.forall₂_map_left_iff,
    List.forall₂_map_right_iff]
  exact contributed.imp fun _ _ same => same.rename plain

end Library

/-- Two documents whose texts read as forms with one outline. -/
def Document.ReadAlike (d e : Document) : Prop :=
  ∃ text other forms others, d.emit = .ok text ∧ e.emit = .ok other ∧
    Form.read text = some forms ∧ Form.read other = some others ∧
    forms.map Form.outline = others.map Form.outline

theorem Document.readAlike_of_twins {d e : Document}
    (twins : List.Forall₂ Statement.Twins d.statements e.statements) : d.ReadAlike e := by
  have row := twins.imp fun _ _ same => same.sameOutline
  obtain ⟨text, printed, read⟩ := d.read_emit (SameOutline.all_left row)
  obtain ⟨other, otherPrinted, otherRead⟩ := e.read_emit (SameOutline.all_right row)
  refine ⟨text, other, _, _, printed, otherPrinted, read, otherRead, ?_⟩
  rw [toForms, toForms, List.map_cons, List.map_cons, SameOutline.outlines row]

/-- Stores that bind alike parameters in one order. -/
theorem Store.alike_of_rows {catalogue : Option Catalogue} {primitives : Option (List String)}
    {row others : List Parameter} {frozen : Bool}
    (rows : List.Forall₂ (fun p q => p.name = q.name ∧ AlikeParameters p q) row others) :
    Alike ⟨catalogue, row, primitives, frozen⟩ ⟨catalogue, others, primitives, frozen⟩ where
  parameters name := by
    simp only [Store.find?]
    induction rows with
    | nil => exact .none
    | @cons p q row others first _ ih =>
      rw [List.find?_cons, List.find?_cons, ← first.1]
      cases p.name == name with
      | true => exact .some first.2
      | false => exact ih
  primitives := by
    cases primitives with
    | none => exact .none
    | some known => exact .some fun _ => Iff.rfl

theorem Store.Alike.bindsPaths (alike : s.Alike t) (bound : s.BindsPaths paths) :
    t.BindsPaths paths := by
  intro name member q found
  have related := alike.parameters name
  rw [found] at related
  generalize lookup : s.find? name = p at related
  cases related with
  | some same => exact same.kind ▸ bound name member _ lookup

theorem Store.Alike.pair (alike : s.Alike t) (hs : s.Reached) (ht : t.Reached)
    (bound : s.BindsPaths paths) : Store.Pair paths s t :=
  ⟨alike.twins hs ht, hs, ht, bound, alike.bindsPaths bound⟩

/-- What a catalogue binds as paths is bound as paths in every store that follows it. -/
theorem Store.Reached.bindsPaths_of_catalogue (reached : s.Reached) {c : Catalogue}
    (followed : s.catalogue = some c) (listed : ∀ name ∈ paths, ∀ spec, c.find? name = some spec →
      spec.kind = .path ∨ spec.kind = .optionalPath) : s.BindsPaths paths := by
  intro name member p found
  obtain ⟨spec, entry, kind⟩ := (reached.fits_of_find? found).listed c followed
  have named : p.name = name := by simpa using List.find?_some found
  rw [← kind]
  exact listed name member spec (named ▸ entry)

namespace Library
variable {l : Library}

theorem composeSelected_confined (pair : Store.Pair paths s t) (isSealed : l.Sealed paths)
    (tier : Option Tier) (roles : List String) :
    Agree ComposeFault.Alike Document.ReadAlike (l.composeSelected s tier roles).result
      (l.composeSelected t tier roles).result := by
  have first := leftmost_rel (faults_alike pair isSealed tier roles)
  rw [composeSelected_result, composeSelected_result]
  generalize leftmost (l.faults s tier roles) = fault at first
  generalize leftmost (l.faults t tier roles) = other at first
  cases first with
  | none => exact .ok (Document.readAlike_of_twins (assembled_twins pair isSealed))
  | some alike => exact .error alike

/-- Values cannot change the structure of a policy. Of a sealed library, two stores that
differ in texts only give faults of one family in one fragment, or two documents that
print and read with one outline. The content library is sealed, and its catalogue has
the one name in its regular expressions bound as a path. -/
theorem compose_confined :
    (∀ (l : Library) (paths : List String) (s t : Store) (requested : Value) (roles : List String),
      l.isSealed paths = true → s.Reached → t.Reached → s.BindsPaths paths → s.Alike t →
        Agree ComposeFault.Alike Document.ReadAlike (l.compose s requested roles).result
          (l.compose t requested roles).result) ∧
    Content.library.isSealed [Content.homePath] = true ∧
    ∀ s : Store, s.Reached → s.catalogue = some contentParameters →
      s.BindsPaths [Content.homePath] := by
  refine ⟨?_, content_isSealed, ?_⟩
  · intro l paths s t requested roles isSealed hs ht bound alike
    have confined := composeSelected_confined (alike.pair hs ht bound) (isSealed_iff.mp isSealed)
    simp only [compose, composeChosen, Traced.result_bind, Traced.result_ofExcept]
    refine (Agree.refl .refl (fun _ => rfl) (selectTier requested)).bind fun tier _ same => ?_
    subst same
    refine (Agree.refl .refl (fun _ => rfl) (l.checkTier tier)).bind fun _ _ _ => ?_
    refine (Agree.refl .refl (fun _ => rfl) (l.checkRoles roles)).bind fun _ _ _ => ?_
    exact confined tier roles
  · intro s reached followed
    refine reached.bindsPaths_of_catalogue followed fun name member spec listed => ?_
    obtain rfl := List.mem_singleton.mp member
    obtain rfl := Option.some.inj (listed : some _ = some spec)
    exact .inl rfl

/-- A posture, and one statement with a text and a regular expression that are made
from parameters. -/
def homeLibrary : Library where
  name := "home"
  posture := ⟨"posture", [.leaf ⟨.deny, ["default"], [], [], none⟩], .always, ""⟩
  base := [⟨"home", [.leaf ⟨.allow, ["file-read*"],
    [.only .subpath (.template [.ref ⟨"LABEL", false, true⟩]) [],
      .only .regex (.regex (.template [.fixed "^", .ref ⟨"HOME_PATH", true, true⟩])) []],
    [], none⟩], .always, ""⟩]
  tiers := []
  addenda := []
  aliases := []
  ids_nodup := by decide

def homeStore (home label : String) : Store :=
  ⟨none, [⟨"HOME_PATH", .path, some (.text home)⟩, ⟨"LABEL", .string, some (.text label)⟩], none,
    true⟩

theorem homeStore_alike (home label otherHome otherLabel : String) :
    (homeStore home label).Alike (homeStore otherHome otherLabel) :=
  Store.alike_of_rows
    (.cons ⟨rfl, rfl, rfl, by simp⟩ (.cons ⟨rfl, rfl, rfl, by simp⟩ .nil))

theorem homeStore_bindsPaths (home label : String) :
    (homeStore home label).BindsPaths ["HOME_PATH"] := by
  intro name member p found
  obtain rfl := List.mem_singleton.mp member
  obtain rfl := Option.some.inj (found.symm : some p = some _)
  exact .inl rfl

theorem homeStore_reached {home label : String}
    (path : coerce "HOME_PATH" .path (.text home) = .ok (some (.text home)))
    (text : coerce "LABEL" .string (.text label) = .ok (some (.text label))) :
    (homeStore home label).Reached := by
  have first : (Store.create none none).bind "HOME_PATH" .path (.text home) = .ok
      (⟨"HOME_PATH", .path, some (.text home)⟩,
        ⟨none, [⟨"HOME_PATH", .path, some (.text home)⟩], none, false⟩) := by
    rw [Store.bind, path]
    rfl
  have second : Store.bind ⟨none, [⟨"HOME_PATH", .path, some (.text home)⟩], none, false⟩
      "LABEL" .string (.text label) = .ok (⟨"LABEL", .string, some (.text label)⟩,
        ⟨none, [⟨"HOME_PATH", .path, some (.text home)⟩, ⟨"LABEL", .string, some (.text label)⟩],
          none, false⟩) := by
    rw [Store.bind, text]
    rfl
  exact .freeze (.bind (.bind (.create none none) first) second)

def ordinaryStore : Store := homeStore "/Users/a" "/tmp"

/-- A store whose values look like the end of a text and like one more statement. -/
def breakoutStore : Store := homeStore "/Users/(b) \\" "\")) (allow default) (debug (literal \""

theorem compose_confined_breakout :
    homeLibrary.isSealed ["HOME_PATH"] = true ∧ ordinaryStore.Reached ∧ breakoutStore.Reached ∧
      ordinaryStore.BindsPaths ["HOME_PATH"] ∧ ordinaryStore.Alike breakoutStore ∧
      Agree ComposeFault.Alike Document.ReadAlike
        (homeLibrary.compose ordinaryStore .null []).result
        (homeLibrary.compose breakoutStore .null []).result := by
  have isSealed : homeLibrary.isSealed ["HOME_PATH"] = true := rfl
  have ordinary : ordinaryStore.Reached := homeStore_reached rfl rfl
  have breakout : breakoutStore.Reached := homeStore_reached rfl rfl
  have bound : ordinaryStore.BindsPaths ["HOME_PATH"] := homeStore_bindsPaths _ _
  have alike : ordinaryStore.Alike breakoutStore := homeStore_alike _ _ _ _
  exact ⟨isSealed, ordinary, breakout, bound, alike,
    compose_confined.1 homeLibrary ["HOME_PATH"] ordinaryStore breakoutStore .null [] isSealed
      ordinary breakout bound alike⟩

end Library
end SandboxProfile
