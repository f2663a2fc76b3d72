import SandboxProfile.Policy.Explain
import SandboxProfile.Proofs.Parameter.Run
import SandboxProfile.Proofs.Policy.Dependence
import SandboxProfile.Proofs.Table

/-! Stores with the same parameters in different orders. They answer alike, since no name is
bound twice, and their parameters are shown in one order. -/
namespace SandboxProfile.Store
variable {s t : Store}

/-- A store in which the parameters of another one were bound, perhaps in a different order. -/
structure Reordered (s t : Store) : Prop where
  before : s.Reached
  parameters : t.parameters.Perm s.parameters
  primitives : t.primitives = s.primitives

/-- A name is looked up by any parameter that has it. -/
theorem find?_eq_some_iff (distinct : (s.parameters.map (·.name)).Nodup) {name : String}
    {p : Parameter} : s.find? name = some p ↔ p ∈ s.parameters ∧ p.name = name := by
  constructor
  · intro found
    exact ⟨List.mem_of_find?_eq_some found, by simpa using List.find?_some found⟩
  · rintro ⟨member, rfl⟩
    exact Table.find?_of_mem distinct member

namespace Reordered

theorem distinct (reordered : s.Reordered t) : (t.parameters.map (·.name)).Nodup :=
  (reordered.parameters.map _).nodup_iff.mpr reordered.before.names_nodup

theorem find?_eq (reordered : s.Reordered t) (name : String) : t.find? name = s.find? name := by
  refine Option.ext fun p => ?_
  rw [find?_eq_some_iff reordered.distinct, find?_eq_some_iff reordered.before.names_nodup,
    reordered.parameters.mem_iff]

theorem agreeOn (reordered : s.Reordered t) (m : Mention) : t.AgreeOn s m := by
  cases m with
  | parameter name => exact congrArg _ (reordered.find?_eq name)
  | primitive name => exact congrArg _ reordered.primitives

/-- Sorted by their names, the parameters stand in one order. -/
theorem sorted_eq (reordered : s.Reordered t) :
    t.parameters.mergeSort (fun a b => decide (a.name ≤ b.name)) =
      s.parameters.mergeSort fun a b => decide (a.name ≤ b.name) := by
  have sorted (parameters : List Parameter) : List.Pairwise (fun a b => a.name ≤ b.name)
      (parameters.mergeSort fun a b => decide (a.name ≤ b.name)) := by
    have transitive (a b c : Parameter) (first : decide (a.name ≤ b.name) = true)
        (second : decide (b.name ≤ c.name) = true) : decide (a.name ≤ c.name) = true := by
      simp only [decide_eq_true_eq] at first second ⊢
      exact String.le_trans first second
    have total (a b : Parameter) : (decide (a.name ≤ b.name) || decide (b.name ≤ a.name)) = true := by
      simpa using String.le_total a.name b.name
    simpa only [decide_eq_true_eq] using List.pairwise_mergeSort transitive total parameters
  refine List.Perm.eq_of_pairwise (fun a b left right first second => ?_) (sorted _) (sorted _) ?_
  · have left := reordered.parameters.subset ((List.mergeSort_perm _ _).subset left)
    have right := (List.mergeSort_perm _ _).subset right
    exact List.inj_on_of_nodup_map reordered.before.names_nodup left right
      (String.le_antisymm first second)
  · exact (List.mergeSort_perm _ _).trans
      (reordered.parameters.trans (List.mergeSort_perm _ _).symm)

theorem explain_eq (reordered : s.Reordered t) : t.explain = s.explain := by
  rw [Store.explain, Store.explain, reordered.sorted_eq, sortedPrimitives, sortedPrimitives,
    reordered.primitives]

end Reordered
end SandboxProfile.Store
