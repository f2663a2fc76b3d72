import SandboxProfile.Proofs.Content.Composable
import SandboxProfile.Proofs.Policy.Increase

/-! Optional parameters of content profiles. They only add permissions: a text that is supplied
adds some in which it stands, and a toggle that is switched on adds one at most. The directory
of a profile that is not protected says nothing. -/
namespace SandboxProfile.Content

/-- The texts that need not be supplied, and the number of permissions that each of them adds. -/
def optionalTexts : List (String × Nat) :=
  [("TESTING_READ_PATH1", 1), ("TESTING_READ_PATH2", 1), ("TESTING_READ_PATH3", 1),
    ("TESTING_READ_PATH4", 1), ("DARWIN_USER_CACHE_DIR", 1), ("DEBUG_WRITE_DIR", 2),
    ("CRASH_PORT", 1)]

/-- The toggles that add permissions of their own. -/
def grantingToggles : List String := ["IS_ROSETTA_TRANSLATED", "HAS_WINDOW_SERVER"]

/-- The changes, the fragment in which each of them is felt, and how much it adds there. -/
def additions : List (Change × Fragment × Growth) :=
  [(.supply "TESTING_READ_PATH1", testingReadPaths, .exactly 1),
    (.supply "TESTING_READ_PATH2", testingReadPaths, .exactly 1),
    (.supply "TESTING_READ_PATH3", testingReadPaths, .exactly 1),
    (.supply "TESTING_READ_PATH4", testingReadPaths, .exactly 1),
    (.supply "DARWIN_USER_CACHE_DIR", fontRegistry, .exactly 1),
    (.supply "DEBUG_WRITE_DIR", debugWriteDir, .exactly 2),
    (.supply "CRASH_PORT", crashReporter, .exactly 1),
    (.switch "IS_ROSETTA_TRANSLATED", systemPaths, ⟨0, 1⟩),
    (.switch "HAS_WINDOW_SERVER", windowServer, .exactly 1)]

theorem additions_grow : ∀ entry ∈ additions, library.GrowsIn entry.1 entry.2.1 entry.2.2 := by
  have told : ∀ entry ∈ additions,
      entry.2.1.node.growth? entry.1 = some entry.2.2 ∧
      (entry.1.opens entry.2.1.guard = true ∨
        .parameter entry.1.name ∉ entry.2.1.guard.mentions) ∧
      (∀ other ∈ library.fragments, other.id ≠ entry.2.1.id →
        .parameter entry.1.name ∉ other.mentions) ∧
      ∀ a ∈ library.aliases, .parameter entry.1.name ∉ a.guard.mentions := by
    decide +kernel
  have listed : ∀ entry ∈ additions, entry.2.1 ∈ library.base := by
    simp [additions, library, sections, base]
  intro entry member
  obtain ⟨growth, guard, others, aliases⟩ := told entry member
  exact ⟨listed entry member, growth, guard, others, aliases⟩

theorem exists_growsIn_of_text {name : String} {n : Nat} (listed : (name, n) ∈ optionalTexts) :
    ∃ f, library.GrowsIn (.supply name) f (.exactly n) := by
  have entry : ∃ f, (Change.supply name, f, Growth.exactly n) ∈ additions := by
    simp only [optionalTexts, List.mem_cons, Prod.mk.injEq, List.not_mem_nil, or_false] at listed
    rcases listed with h | h | h | h | h | h | h <;> obtain ⟨rfl, rfl⟩ := h <;> simp [additions]
  obtain ⟨f, member⟩ := entry
  exact ⟨f, additions_grow _ member⟩

theorem exists_growsIn_of_toggle {name : String} (listed : name ∈ grantingToggles) :
    ∃ f g, library.GrowsIn (.switch name) f g ∧ g.most ≤ 1 := by
  have entry : ∃ f g, (Change.switch name, f, g) ∈ additions ∧ g.most ≤ 1 := by
    simp only [grantingToggles, List.mem_cons, List.not_mem_nil, or_false] at listed
    rcases listed with rfl | rfl
    · exact ⟨systemPaths, ⟨0, 1⟩, by simp [additions], Nat.le_refl 1⟩
    · exact ⟨windowServer, .exactly 1, by simp [additions], Nat.le_refl 1⟩
  obtain ⟨f, g, member, most⟩ := entry
  exact ⟨f, g, additions_grow _ member, most⟩

/-! The directory of the profile. -/

theorem profileDir_told : ∀ f ∈ library.fragments, f.id ≠ profileExtensions.id →
    f.id ≠ restrictedRead.id → .parameter profileDir ∉ f.mentions := by
  decide +kernel

theorem aliases_told_apart : ∀ a ∈ library.aliases, .parameter profileDir ∉ a.guard.mentions := by
  decide +kernel

/-- The second tier asks for the directory if the profile is protected. -/
theorem restrictedRead_eq : ∃ first unprotected within,
    restrictedRead.body =
      [first, .guarded (.isTrue hasSandboxedProfile) within [unprotected]] ∧
    .parameter profileDir ∉ first.mentions ∧ .parameter profileDir ∉ unprotected.mentions :=
  ⟨_, _, _, rfl, by decide +kernel, by decide +kernel⟩

section Unprotected
variable {s t : Store} (agree : s.AgreeApartFrom profileDir t)
  (off : s.setting hasSandboxedProfile = .ok (some (.flag false)))
include agree off

theorem protection_off : (Guard.isTrue hasSandboxedProfile).evaluate s = .ok false ∧
    (Guard.isTrue hasSandboxedProfile).evaluate t = .ok false := by
  have fresh : .parameter profileDir ∉ (Guard.isTrue hasSandboxedProfile).mentions := by decide
  have decided := Guard.evaluate_isTrue_eq_ok.mpr off
  exact ⟨decided, (Guard.evaluate_eq_of_fresh agree fresh).symm.trans decided⟩

theorem profileExtensions_outcome_eq :
    profileExtensions.outcome s = profileExtensions.outcome t := by
  obtain ⟨first, second⟩ := protection_off agree off
  have guard : profileExtensions.guard = .isTrue hasSandboxedProfile := rfl
  rw [Fragment.outcome_eq, Fragment.outcome_eq, guard, first, second]
  rfl

theorem restrictedRead_outcome_eq : restrictedRead.outcome s = restrictedRead.outcome t := by
  obtain ⟨first, unprotected, within, body, firstFresh, lastFresh⟩ := restrictedRead_eq
  obtain ⟨here, there⟩ := protection_off agree off
  have same : (Node.resolveList s restrictedRead.id restrictedRead.body).result =
      (Node.resolveList t restrictedRead.id restrictedRead.body).result := by
    rw [body]
    simp only [Node.result_cons, Node.result_guarded, here, there, Outcome.ok_bind,
      Bool.false_eq_true, ↓reduceIte, Node.resolve_eq_of_fresh agree firstFresh,
      Node.resolve_eq_of_fresh agree lastFresh]
    rfl
  rw [Fragment.outcome_eq, Fragment.outcome_eq, same]
  rfl

theorem compose_eq_of_unprotected (requested : Value) (roles : List String) :
    (library.compose s requested roles).result = (library.compose t requested roles).result := by
  have extensions : profileExtensions ∈ library.fragments := by
    simp [Sections.fragments, library, sections, base]
  have restricted : restrictedRead ∈ library.fragments :=
    List.mem_append_left _ <| List.mem_append_right _ <|
      List.mem_flatMap.mpr ⟨.level2, by decide, List.mem_cons_self⟩
  refine Library.compose_eq_of_outcomes (fun f member => ?_) (fun a member => ?_) requested roles
  · by_cases first : f.id = profileExtensions.id
    · rw [Library.eq_of_id_eq member extensions first]
      exact profileExtensions_outcome_eq agree off
    · by_cases second : f.id = restrictedRead.id
      · rw [Library.eq_of_id_eq member restricted second]
        exact restrictedRead_outcome_eq agree off
      · exact Fragment.outcome_eq_of_fresh agree (profileDir_told f member first second)
  · exact Guard.evaluate_eq_of_fresh agree (aliases_told_apart a member)

end Unprotected

/-- An optional text adds as many permissions as it is meant to, in one place, and stands in
each of them. A toggle adds one permission at most. The directory of a profile that is not
protected has no influence. There are no other differences between the documents, and if
there is no document, then in both cases with the same fault. -/
theorem optional_only_permits (requested : Value) (roles : List String) :
    (∀ name n value (s t : Store), (name, n) ∈ optionalTexts → Store.Supply name value s t →
      Agree Eq (Document.Increased
          (fun a => a.action = .allow ∧ ∃ f ∈ a.filters, f.Contains value) (.exactly n))
        (library.compose s requested roles).result (library.compose t requested roles).result) ∧
    (∀ name (s t : Store), name ∈ grantingToggles → Store.SwitchOn name s t →
      Agree Eq (Document.Increased (fun a => a.action = .allow) ⟨0, 1⟩)
        (library.compose s requested roles).result (library.compose t requested roles).result) ∧
    ∀ s t : Store, s.AgreeApartFrom profileDir t →
      s.setting hasSandboxedProfile = .ok (some (.flag false)) →
      (library.compose s requested roles).result = (library.compose t requested roles).result := by
  refine ⟨?_, ?_, fun s t agree off => compose_eq_of_unprotected agree off requested roles⟩
  · intro name n value s t listed supply
    obtain ⟨f, grows⟩ := exists_growsIn_of_text listed
    have between : (Change.supply name).Between value s t := supply
    exact grows.compose_increased between requested roles
  · intro name s t listed switch
    obtain ⟨f, g, grows, most⟩ := exists_growsIn_of_toggle listed
    have between : (Change.switch name).Between "" s t := switch
    exact (grows.compose_increased between requested roles).knowing fun _ _ _ _ increased =>
      increased.weaken (Nat.zero_le _) most

def unprotectedStore : Store := suppliedStore.assign hasSandboxedProfile (some (.flag false))

def writingStore : Store := suppliedStore.assign "DEBUG_WRITE_DIR" (some (.text "/tmp/w"))

def windowStore : Store := suppliedStore.assign "HAS_WINDOW_SERVER" (some (.flag true))

theorem optional_only_permits_supplied :
    (Store.Supply "DEBUG_WRITE_DIR" "/tmp/w" suppliedStore writingStore ∧
      Store.SwitchOn "HAS_WINDOW_SERVER" suppliedStore windowStore ∧
      Store.AgreeApartFrom profileDir unprotectedStore (unprotectedStore.assign profileDir none)) ∧
    (∃ d writing window : Document,
      (library.compose suppliedStore (.int 2) ["file"]).result = .ok d ∧
      (library.compose writingStore (.int 2) ["file"]).result = .ok writing ∧
      (library.compose windowStore (.int 2) ["file"]).result = .ok window ∧
      Document.Increased (fun a => a.action = .allow ∧ ∃ f ∈ a.filters, f.Contains "/tmp/w")
        (.exactly 2) d writing ∧
      Document.Increased (fun a => a.action = .allow) ⟨0, 1⟩ d window) ∧
    (library.compose unprotectedStore (.int 2) ["file"]).result =
      (library.compose (unprotectedStore.assign profileDir none) (.int 2) ["file"]).result := by
  have supply : Store.Supply "DEBUG_WRITE_DIR" "/tmp/w" suppliedStore writingStore :=
    ⟨Store.agreeApartFrom_assign _ _ _, rfl, rfl⟩
  have switch : Store.SwitchOn "HAS_WINDOW_SERVER" suppliedStore windowStore :=
    ⟨Store.agreeApartFrom_assign _ _ _, rfl, rfl⟩
  have agree : Store.AgreeApartFrom profileDir unprotectedStore
      (unprotectedStore.assign profileDir none) := Store.agreeApartFrom_assign _ _ _
  obtain ⟨texts, toggles, directory⟩ := optional_only_permits (.int 2) ["file"]
  obtain ⟨d, composed⟩ : ∃ d, (library.compose suppliedStore (.int 2) ["file"]).result = .ok d :=
    exists_document suppliedStore_built (by simp) rfl
  obtain ⟨writing, written, more⟩ :=
    (texts "DEBUG_WRITE_DIR" 2 "/tmp/w" _ _ (by simp [optionalTexts]) supply).exists_ok composed
  obtain ⟨window, windowed, another⟩ :=
    (toggles "HAS_WINDOW_SERVER" _ _ (by simp [grantingToggles]) switch).exists_ok composed
  exact ⟨⟨supply, switch, agree⟩,
    ⟨d, writing, window, composed, written, windowed, more, another⟩, directory _ _ agree rfl⟩

end SandboxProfile.Content
