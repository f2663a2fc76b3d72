import SandboxProfile.Proofs.Policy.Mention
import SandboxProfile.Proofs.Policy.Section

/-! What a composition depends on. Every answer that it takes from a store is one to
something that stands in the library: nothing else of a store can change the document, the
fault or the notes. -/
namespace SandboxProfile
variable {excused : Prop} {s t : Store}

namespace Assembly

theorem add_upheld (a : Assembly) {f : Fragment}
    (answers : ∀ m ∈ f.mentions, s.Upholds excused t m) :
    (a.add s f).Upheld excused (a.add t f) := by
  unfold add
  by_cases repeated : a.visited.contains f.id = true
  · simp only [repeated, ↓reduceIte]
    exact .refl _
  · simp only [repeated, Bool.false_eq_true, ↓reduceIte]
    rcases Fragment.resolve_upheld answers with same | ⟨fine, e, failed⟩
    · rw [same]
      exact .refl _
    · rcases resolved : f.resolve s with ⟨notes, fault | out⟩
      · exact .inr ⟨fine, _, rfl⟩
      · rw [resolved] at failed
        contradiction

theorem addAll_upheld {fs : List Fragment}
    (answers : ∀ f ∈ fs, ∀ m ∈ f.mentions, s.Upholds excused t m) (a : Assembly) :
    (a.addAll s fs).Upheld excused (a.addAll t fs) := by
  induction fs generalizing a with
  | nil => exact .refl _
  | cons f rest ih =>
    obtain ⟨here, later⟩ := List.forall_mem_cons.mp answers
    exact (a.add_upheld here).bind fun next => ih later next

end Assembly

namespace Library
variable {l : Library}

theorem activeRenames_upheld {aliases : List AliasSet}
    (answers : ∀ a ∈ aliases, ∀ m ∈ a.guard.mentions, s.Upholds excused t m) :
    Upheld excused (activeRenames s aliases) (activeRenames t aliases) := by
  induction aliases with
  | nil => exact .refl _
  | cons a rest ih =>
    obtain ⟨here, later⟩ := List.forall_mem_cons.mp answers
    refine (a.guard.evaluate_upheld here).bind fun active => ?_
    exact (ih later).bind fun _ => .refl _

theorem composeSelected_upheld (answers : ∀ m ∈ l.mentions, s.Upholds excused t m)
    (tier : Option Tier) (roles : List String) :
    (l.composeSelected s tier roles).Upheld excused (l.composeSelected t tier roles) := by
  obtain ⟨fragments, aliases⟩ := List.forall_mem_append.mp answers
  have sequence : ∀ f ∈ l.sequence tier roles, ∀ m ∈ f.mentions, s.Upholds excused t m :=
    fun f member => List.forall_mem_flatMap.mp fragments f (mem_fragments_of_mem_sequence member)
  obtain ⟨posture, following⟩ := List.forall_mem_cons.mp sequence
  have renames := activeRenames_upheld (List.forall_mem_flatMap.mp aliases)
  rw [composeSelected, composeSelected, considered_eq_following]
  refine (Assembly.empty.add_upheld posture).bind fun opening => ?_
  dsimp only
  split
  case' isFalse => refine (Traced.Upheld.refl _).bind fun _ => ?_
  all_goals
    refine (Assembly.addAll_upheld following opening).bind fun a => ?_
    exact (Traced.Upheld.ofExcept (renames.mapError _)).bind fun _ => .refl _

/-- Tier and roles are looked up before the store is asked for anything. -/
theorem compose_upheld (answers : ∀ m ∈ l.mentions, s.Upholds excused t m) (requested : Value)
    (roles : List String) : (l.compose s requested roles).Upheld excused
      (l.compose t requested roles) := by
  unfold compose composeChosen
  refine (Traced.Upheld.refl _).bind fun tier => ?_
  refine (Traced.Upheld.refl _).bind fun _ => ?_
  refine (Traced.Upheld.refl _).bind fun _ => ?_
  exact composeSelected_upheld answers tier roles

end Library

/-- Two stores agree on something mentioned: on the setting of a parameter, or on whether
a primitive is defined. What is not bound or not known in one must not be so in the other. -/
def Store.AgreeOn (s t : Store) : Mention → Prop
  | .parameter name => (s.find? name).map (·.setting) = (t.find? name).map (·.setting)
  | .primitive name => s.primitives.map (·.contains name) = t.primitives.map (·.contains name)

instance (s t : Store) : DecidablePred (s.AgreeOn t)
  | .parameter name =>
    inferInstanceAs (Decidable ((s.find? name).map (·.setting) = (t.find? name).map (·.setting)))
  | .primitive name =>
    inferInstanceAs (Decidable (s.primitives.map (·.contains name) =
      t.primitives.map (·.contains name)))

namespace Store

theorem AgreeOn.upholds {m : Mention} (agree : s.AgreeOn t m) : s.Upholds excused t m := by
  cases m with
  | parameter name =>
    left
    rw [setting_eq, setting_eq, show Option.map _ _ = Option.map _ _ from agree]
  | primitive name =>
    left
    rw [defines_eq, defines_eq, show Option.map _ _ = Option.map _ _ from agree]

end Store

namespace Library

/-- Only what a library mentions matters. If two stores agree on that, whatever their
kinds, orders, catalogues and other parameters, they give one and the same document or
fault, and the same notes. -/
theorem compose_eq_of_agreeOn {l : Library} (agree : ∀ m ∈ l.mentions, s.AgreeOn t m)
    (requested : Value) (roles : List String) :
    l.compose s requested roles = l.compose t requested roles :=
  (compose_upheld (fun m member => (agree m member).upholds) requested roles).eq

/-- A cache that is read if there is one or if that is asked for, and a rename for it. -/
def cacheLibrary : Library where
  name := "cache"
  posture := ⟨"posture", [.leaf ⟨.deny, ["default"], [], [], none⟩], .always, ""⟩
  base := [⟨"cache", [.leaf ⟨.allow, ["file-read*"],
    [.only .subpath (.template [.ref ⟨"CACHE", false, false⟩]) []], [], none⟩],
    .any [.isSet "CACHE", .isTrue "EXTRA"], ""⟩]
  tiers := []
  addenda := []
  aliases := [⟨.any [.isSet "CACHE", .not (.defined "nvram*")],
    [("file-read*", "file-read-data")]⟩]
  ids_nodup := by decide

/-- A frozen store that follows a catalogue. -/
def followingStore : Store :=
  ⟨some [⟨"CACHE", .optionalPath, false, ""⟩, ⟨"EXTRA", .bool, false, ""⟩],
    [⟨"CACHE", .optionalPath, some (.text "/c")⟩, ⟨"EXTRA", .bool, some (.flag false)⟩],
    some ["nvram*"], true⟩

/-- An open store with the same values under other kinds, and with values of its own. -/
def unrelatedStore : Store :=
  ⟨none, [⟨"VERSION", .int, some (.number 1013)⟩, ⟨"EXTRA", .bool, some (.flag false)⟩,
    ⟨"CACHE", .string, some (.text "/c")⟩], some ["mach-register", "nvram*"], false⟩

theorem compose_eq_of_agreeOn_unrelated :
    (∀ m ∈ cacheLibrary.mentions, followingStore.AgreeOn unrelatedStore m) ∧
      cacheLibrary.compose followingStore .null [] =
        cacheLibrary.compose unrelatedStore .null [] := by
  have agree : ∀ m ∈ cacheLibrary.mentions, followingStore.AgreeOn unrelatedStore m := by decide
  exact ⟨agree, compose_eq_of_agreeOn agree .null []⟩

end Library
end SandboxProfile
