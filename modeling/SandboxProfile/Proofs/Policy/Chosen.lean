import SandboxProfile.Proofs.Policy.Explanation

/-! Compositions for a tier that has been chosen. A document that comes out can be written and
explained, and a fault that is blamed on a fragment is blamed on one of the library. -/
namespace SandboxProfile

/-- The value that asks for a tier, or for none. -/
def Tier.requested : Option Tier → Value
  | none => .null
  | some t => .int t.toNat

namespace Fragment
variable {store : Store} {f : Fragment} {earlier : List String} {fault : ComposeFault} {id : String}

theorem fragment?_of_faultBehind (wrong : f.faultBehind store earlier = some fault)
    (blamed : fault.fragment? = some id) : f.id = id := by
  unfold faultBehind at wrong
  split at wrong
  · obtain rfl := Option.some.inj wrong
    exact Option.some.inj blamed
  · split at wrong
    · obtain rfl := Option.some.inj wrong
      exact Option.some.inj (Option.ite_none_right_eq_some.mp blamed).2
    · contradiction

theorem exists_of_mem_faultsBehind {fs : List Fragment}
    (member : some fault ∈ faultsBehind store earlier fs) :
    ∃ f ∈ fs, ∃ before, f.faultBehind store before = some fault := by
  obtain ⟨i, inside, wrong⟩ := List.mem_mapIdx.mp member
  exact ⟨fs[i], List.getElem_mem inside, _, wrong⟩

end Fragment

namespace Library
variable {l : Library} {store : Store} {tier : Option Tier} {roles : List String}

theorem compose_requested :
    (l.compose store (Tier.requested tier) roles).result =
      (l.composeChosen store tier roles).result := by
  have asked : selectTier (Tier.requested tier) = .ok tier := by
    rcases tier with _ | _ | _ | _ <;> rfl
  rw [compose, Traced.result_bind, Traced.result_ofExcept, asked, Outcome.ok_bind]

theorem fragment?_of_checkTier {fault : ComposeFault} (wrong : l.checkTier tier = .error fault) :
    fault.fragment? = none := by
  unfold checkTier at wrong
  split at wrong
  · contradiction
  · split at wrong
    · contradiction
    · obtain rfl := Except.error.inj wrong
      rfl

theorem fragment?_of_checkRoles {fault : ComposeFault}
    (wrong : l.checkRoles roles = .error fault) : fault.fragment? = none := by
  unfold checkRoles at wrong
  split at wrong
  · obtain rfl := Except.error.inj wrong
    rfl
  · contradiction

/-- A document of a proper library has a text and an explanation. -/
theorem exists_texts (proper : l.isProper = true)
    (guards : ∀ f ∈ l.fragments, f.guard.isProper = true) {d : Document}
    (composed : (l.composeChosen store tier roles).result = .ok d) :
    (∃ text, d.emit = .ok text) ∧ ∃ text, l.explainDocument store d = .ok text := by
  rw [← compose_requested] at composed
  obtain ⟨text, explained, -⟩ := explain_of_compose proper guards composed
  rw [explain_result, composed] at explained
  obtain ⟨tier, -, -, -, resolves, rfl⟩ := compose_eq_ok_iff.mp composed
  exact ⟨Document.exists_emit_iff.mpr (isFixed_of_mem_statements proper resolves), text,
    Outcome.mapError_eq_ok.mp explained⟩

/-- Where the fault of a composition comes from: a fragment behind some others, the opening, or an
alias set. -/
theorem origin_of_leftmost {fault : ComposeFault}
    (first : leftmost (l.faults store tier roles) = some fault) :
    (∃ f ∈ l.sequence tier roles, ∃ before, f.faultBehind store before = some fault) ∨
      fault = .openPosture l.name l.posture.id ∨ ∃ cause, fault = .inAlias cause := by
  obtain ⟨_, member, rfl⟩ := List.exists_of_findSome?_eq_some first
  simp only [faults, List.cons_append, List.mem_cons, List.mem_append, List.mem_map] at member
  rcases member with posture | opening | following | ⟨a, -, guard⟩
  · exact .inl ⟨l.posture, List.mem_cons_self, _, posture.symm⟩
  · obtain ⟨-, same⟩ := Option.ite_none_left_eq_some.mp opening.symm
    exact .inr (.inl (Option.some.inj same).symm)
  · obtain ⟨f, inRow, before, wrong⟩ := Fragment.exists_of_mem_faultsBehind following
    exact .inl ⟨f, List.mem_cons_of_mem _ inRow, before, wrong⟩
  · unfold AliasSet.fault at guard
    split at guard
    · next cause _ => exact .inr (.inr ⟨cause, (Option.some.inj guard).symm⟩)
    · contradiction

theorem exists_fragment_of_leftmost {fault : ComposeFault} {id : String}
    (first : leftmost (l.faults store tier roles) = some fault)
    (blamed : fault.fragment? = some id) : ∃ f ∈ l.sequence tier roles, f.id = id := by
  rcases origin_of_leftmost first with ⟨f, inRow, before, wrong⟩ | rfl | ⟨cause, rfl⟩
  · exact ⟨f, inRow, Fragment.fragment?_of_faultBehind wrong blamed⟩
  · exact ⟨l.posture, List.mem_cons_self, Option.some.inj blamed⟩
  · contradiction

theorem exists_fragment_of_fault {fault : ComposeFault} {id : String}
    (failed : (l.composeChosen store tier roles).result = .error fault)
    (blamed : fault.fragment? = some id) : ∃ f ∈ l.fragments, f.id = id := by
  rw [composeChosen, Traced.result_bind, Traced.result_ofExcept] at failed
  cases declared : l.checkTier tier with
  | error other =>
    rw [declared] at failed
    obtain rfl := Except.error.inj failed
    rw [fragment?_of_checkTier declared] at blamed
    contradiction
  | ok =>
    rw [declared, Outcome.ok_bind, Traced.result_bind, Traced.result_ofExcept] at failed
    cases known : l.checkRoles roles with
    | error other =>
      rw [known] at failed
      obtain rfl := Except.error.inj failed
      rw [fragment?_of_checkRoles known] at blamed
      contradiction
    | ok =>
      rw [known, Outcome.ok_bind, composeSelected_result] at failed
      cases wrong : leftmost (l.faults store tier roles) with
      | none =>
        rw [wrong] at failed
        contradiction
      | some other =>
        rw [wrong] at failed
        obtain rfl := Except.error.inj failed
        obtain ⟨f, inRow, same⟩ := exists_fragment_of_leftmost wrong blamed
        exact ⟨f, mem_fragments_of_mem_sequence inRow, same⟩

end Library
end SandboxProfile
