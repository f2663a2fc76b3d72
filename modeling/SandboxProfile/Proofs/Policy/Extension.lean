import SandboxProfile.Proofs.Policy.Dependence

/-! Stores that extend others. A name that is not bound is never taken for one that is
false or not set, so what is resolved without a name stays as it is when the name is
bound. -/
namespace SandboxProfile
variable {s t : Store}

/-- The first store binds every name that the second one binds, to the same setting, and
knows the same primitives as far as the second one knows any. -/
structure Store.Extends (t s : Store) : Prop where
  parameters : ∀ name p, s.find? name = some p →
    ∃ q, t.find? name = some q ∧ q.setting = p.setting
  primitives : ∀ known, s.primitives = some known →
    ∃ others, t.primitives = some others ∧ ∀ name, name ∈ known ↔ name ∈ others

namespace Store.Extends

theorem setting_eq_ok (more : t.Extends s) {name : String} {setting : Option Setting}
    (bound : s.setting name = .ok setting) : t.setting name = .ok setting := by
  rw [setting_eq] at bound
  cases found : s.find? name with
  | none =>
    rw [found] at bound
    contradiction
  | some p =>
    rw [found] at bound
    obtain ⟨q, also, same⟩ := more.parameters name p found
    rw [setting_eq, also, Option.map_some, same]
    exact bound

theorem defines_eq_ok (more : t.Extends s) {primitive : String} {holds : Bool}
    (told : s.defines primitive = .ok holds) : t.defines primitive = .ok holds := by
  rw [defines_eq] at told
  cases list : s.primitives with
  | none =>
    rw [list] at told
    contradiction
  | some known =>
    rw [list] at told
    obtain ⟨others, also, same⟩ := more.primitives known list
    have contained : others.contains primitive = known.contains primitive := by
      simp [same primitive]
    rw [defines_eq, also, Option.map_some, contained]
    exact told

theorem upholds (more : t.Extends s) (m : Mention) : s.Upholds True t m := by
  cases m with
  | parameter name => exact .of_results fun _ bound => more.setting_eq_ok bound
  | primitive name => exact .of_results fun _ told => more.defines_eq_ok told

/-- Results are stable: a guard, template, filter or statement that ends with a result
ends with the same one in every store that extends the first, and a composition that
gives a document gives the same document, with the same notes. -/
theorem results_stable (more : t.Extends s) :
    (∀ (g : Guard) (holds : Bool), g.evaluate s = .ok holds → g.evaluate t = .ok holds) ∧
    (∀ (parts : Template) (out : Option String),
      Template.render s parts = .ok out → Template.render t parts = .ok out) ∧
    (∀ (f : Filter) (out : Option Filter),
      f.instantiate s = .ok out → f.instantiate t = .ok out) ∧
    (∀ (a : Statement) (out : Option Statement),
      a.instantiate s = .ok out → a.instantiate t = .ok out) ∧
    ∀ (l : Library) (requested : Value) (roles : List String) (d : Document),
      (l.compose s requested roles).result = .ok d →
        l.compose t requested roles = ⟨(l.compose s requested roles).notes, .ok d⟩ := by
  refine ⟨fun g _ => ?_, fun parts _ => ?_, fun f _ => ?_, fun a _ => ?_, ?_⟩
  · exact (g.evaluate_upheld fun m _ => more.upholds m).result
  · exact (Template.render_upheld fun m _ => more.upholds m).result
  · exact (f.instantiate_upheld fun m _ => more.upholds m).result
  · exact (Statement.instantiate_upheld fun m _ => more.upholds m).result
  · intro l requested roles d composed
    have upheld := l.compose_upheld (fun m _ => more.upholds m) requested roles
    rw [← upheld.eq_of_result composed, ← composed]

/-- A store in which only the cache is bound, and no primitives are known. -/
def sparseStore : Store := ⟨none, [⟨"CACHE", .path, some (.text "/c")⟩], none, true⟩

/-- The same store with what the guards of the library mention last, too. -/
def fullerStore : Store :=
  ⟨none, [⟨"EXTRA", .bool, some (.flag false)⟩, ⟨"CACHE", .path, some (.text "/c")⟩],
    some ["nvram*"], true⟩

def cacheDocument : Document :=
  ⟨[⟨.deny, ["default"], [], [], none⟩,
    ⟨.allow, ["file-read-data"], [.only .subpath (.text "/c") []], [], none⟩],
    none, [], ["posture", "cache"], "cache"⟩

theorem fullerStore_extends : fullerStore.Extends sparseStore where
  parameters name p found := by
    have named : p.name = name := by simpa using List.find?_some found
    obtain rfl := List.mem_singleton.mp (List.mem_of_find?_eq_some found)
    subst named
    exact ⟨⟨"CACHE", .path, some (.text "/c")⟩, rfl, rfl⟩
  primitives known told := by contradiction

theorem results_stable_fuller :
    fullerStore.Extends sparseStore ∧
      (Library.cacheLibrary.compose sparseStore .null []).result = .ok cacheDocument ∧
      Library.cacheLibrary.compose fullerStore .null [] =
        ⟨(Library.cacheLibrary.compose sparseStore .null []).notes, .ok cacheDocument⟩ := by
  have composed : (Library.cacheLibrary.compose sparseStore .null []).result =
      .ok cacheDocument := by rfl
  obtain ⟨-, -, -, -, stable⟩ := results_stable fullerStore_extends
  exact ⟨fullerStore_extends, composed, stable _ _ _ _ composed⟩

end Store.Extends
end SandboxProfile
