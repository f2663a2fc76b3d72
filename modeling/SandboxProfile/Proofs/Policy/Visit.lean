import SandboxProfile.Proofs.Policy.Composition

/-! The notes of a composition. Every fragment that is visited leaves the notes of its own
resolution and behind them one that says whether it was included, so that the notes of a
composition with a document are those of its fragments, one behind the other. -/
namespace SandboxProfile

namespace Traced
variable {ω ε α β : Type}

/-- The notes of a sequence whose first part has a result. -/
theorem notes_bind {x : Traced ω ε α} {a : α} (given : x.result = .ok a)
    (f : α → Traced ω ε β) : (x >>= f).notes = x.notes ++ (f a).notes := by
  obtain ⟨notes, result⟩ := x
  obtain rfl : result = .ok a := given
  rfl

theorem mem_notes_bind {x : Traced ω ε α} {f : α → Traced ω ε β} {e : ω}
    (member : e ∈ (x >>= f).notes) : e ∈ x.notes ∨ ∃ a, e ∈ (f a).notes := by
  obtain ⟨notes, fault | a⟩ := x
  · exact .inl member
  · exact (List.mem_append.mp member).imp_right fun later => ⟨a, later⟩

end Traced

/-- The fragment that a note tells the end of, and whether it was included. -/
def Event.visit? : Event → Option (String × Bool)
  | .skipped id => some (id, false)
  | .included id _ => some (id, true)
  | _ => none

/-- The visits that notes tell of, in their order. -/
def Event.visits (notes : List Event) : List (String × Bool) := notes.filterMap visit?

namespace Node
variable {store : Store} {id : String}

mutual
/-- By induction on the node: while it is resolved, nothing is noted but statements that are
left out. -/
theorem statementSkipped_of_mem_notes : ∀ (node : Node) {e : Event},
    e ∈ (node.resolve store id).notes → ∃ operations, e = .statementSkipped id operations
  | .leaf a, e, member => by
    unfold resolve at member
    rcases Traced.mem_notes_bind member with early | ⟨resolved, member⟩
    · contradiction
    · cases resolved with
      | none => exact ⟨a.operations, List.mem_singleton.mp member⟩
      | some b => contradiction
  | .guarded guard body otherwise, e, member => by
    unfold resolve at member
    rcases Traced.mem_notes_bind member with early | ⟨holds, member⟩
    · contradiction
    · cases holds with
      | true => exact statementSkipped_of_mem_notesOf body member
      | false => exact statementSkipped_of_mem_notesOf otherwise member
  | .stray value, e, member => by contradiction

theorem statementSkipped_of_mem_notesOf : ∀ (nodes : List Node) {e : Event},
    e ∈ (resolveList store id nodes).notes → ∃ operations, e = .statementSkipped id operations
  | [], e, member => by contradiction
  | node :: rest, e, member => by
    unfold resolveList at member
    rcases Traced.mem_notes_bind member with here | ⟨_, member⟩
    · exact statementSkipped_of_mem_notes node here
    · rcases Traced.mem_notes_bind member with later | ⟨_, member⟩
      · exact statementSkipped_of_mem_notesOf rest later
      · contradiction
end

end Node

namespace Fragment
variable {store : Store} {f : Fragment}

/-- The note behind a fragment that resolves. -/
def closing (store : Store) (f : Fragment) : Event :=
  if f.guard.holds store then .included f.id (f.contribution store).length else .skipped f.id

/-- The notes of a fragment that resolves. -/
def notes (store : Store) (f : Fragment) : List Event :=
  (f.resolve store).notes ++ [f.closing store]

theorem statementSkipped_of_mem_notes {e : Event} (member : e ∈ (f.resolve store).notes) :
    ∃ operations, e = .statementSkipped f.id operations := by
  rcases Traced.mem_notes_bind member with early | ⟨holds, member⟩
  · contradiction
  · cases holds with
    | false => contradiction
    | true =>
      rcases Traced.mem_notes_bind member with inside | ⟨_, member⟩
      · exact Node.statementSkipped_of_mem_notesOf f.body inside
      · contradiction

theorem visits_notes : Event.visits (f.notes store) = [(f.id, f.guard.holds store)] := by
  have inside : Event.visits (f.resolve store).notes = [] := by
    refine List.filterMap_eq_nil_iff.mpr fun e member => ?_
    obtain ⟨operations, rfl⟩ := statementSkipped_of_mem_notes member
    rfl
  have behind : (f.closing store).visit? = some (f.id, f.guard.holds store) := by
    unfold closing
    cases f.guard.holds store <;> rfl
  rw [notes, Event.visits, List.filterMap_append, List.filterMap_cons_some behind]
  exact congrArg (· ++ _) inside

end Fragment

namespace Assembly
variable {store : Store} {a b : Assembly}

/-- A fragment that is added leaves its own notes, whatever was added before. -/
theorem notes_add {f : Fragment} (added : (a.add store f).result = .ok b) :
    (a.add store f).notes = f.notes store := by
  unfold add at added ⊢
  by_cases repeated : a.visited.contains f.id = true
  · rw [if_pos repeated] at added
    contradiction
  · rw [if_neg repeated] at added ⊢
    have alone : (f.resolve store).result = f.outcome store := rfl
    rw [Fragment.notes, Fragment.closing]
    rcases resolved : f.resolve store with ⟨notes, fault | out⟩
    · rw [resolved] at added
      contradiction
    · rw [resolved] at alone
      have guard := Fragment.guard_of_outcome alone.symm
      cases out with
      | none => simp [Guard.holds, guard]
      | some contributed => simp [Guard.holds, guard, Fragment.contribution, ← alone]

theorem notes_addAll {fs : List Fragment} (added : (a.addAll store fs).result = .ok b) :
    (a.addAll store fs).notes = fs.flatMap (Fragment.notes store) := by
  induction fs generalizing a with
  | nil => rfl
  | cons f rest ih =>
    rw [addAll, Traced.result_bind] at added
    obtain ⟨next, here, later⟩ := Outcome.bind_eq_ok.mp added
    rw [addAll, Traced.notes_bind here, notes_add here, ih later, List.flatMap_cons]

end Assembly

namespace Library
variable {l : Library} {store : Store} {tier : Option Tier} {roles : List String}

theorem notes_composeSelected {d : Document}
    (composed : (l.composeSelected store tier roles).result = .ok d) :
    (l.composeSelected store tier roles).notes =
      (l.sequence d.tier d.roles).flatMap (Fragment.notes store) ++
        [.composed l.name d.tier d.roles d.fragmentIds.length d.statements.length] := by
  unfold composeSelected at composed ⊢
  rw [Traced.result_bind] at composed
  obtain ⟨opening, first, composed⟩ := Outcome.bind_eq_ok.mp composed
  rw [Traced.notes_bind first, Assembly.notes_add first]
  generalize (opening.statements.head?.map Statement.isDenyDefault).getD false = denies at composed ⊢
  cases denies with
  | false => contradiction
  | true =>
    simp only [↓reduceIte, Traced.result_bind, Traced.result_pure] at composed ⊢
    obtain ⟨a, following, composed⟩ := Outcome.bind_eq_ok.mp composed
    obtain ⟨renames, active, composed⟩ := Outcome.bind_eq_ok.mp composed
    obtain rfl := Except.ok.inj composed
    rw [Traced.notes_bind following, Assembly.notes_addAll following, Traced.notes_bind active,
      considered_eq_following, sequence, List.flatMap_cons, List.append_assoc]
    rfl

/-- The notes of a composition with a document are those of its fragments, one behind the
other, and a last one with the counts. -/
theorem notes_compose {requested : Value} {d : Document}
    (composed : (l.compose store requested roles).result = .ok d) :
    (l.compose store requested roles).notes =
      (l.sequence d.tier d.roles).flatMap (Fragment.notes store) ++
        [.composed l.name d.tier d.roles d.fragmentIds.length d.statements.length] := by
  unfold compose composeChosen at composed ⊢
  simp only [Traced.result_bind] at composed
  obtain ⟨tier, asked, composed⟩ := Outcome.bind_eq_ok.mp composed
  obtain ⟨_, declared, composed⟩ := Outcome.bind_eq_ok.mp composed
  obtain ⟨_, known, composed⟩ := Outcome.bind_eq_ok.mp composed
  rw [Traced.notes_bind asked, Traced.notes_bind declared, Traced.notes_bind known,
    notes_composeSelected composed]
  rfl

/-- Every fragment of a composition with a document is visited once, in its place. -/
theorem visits_compose {requested : Value} {d : Document}
    (composed : (l.compose store requested roles).result = .ok d) :
    Event.visits (l.compose store requested roles).notes =
      (l.sequence d.tier d.roles).map fun f => (f.id, f.guard.holds store) := by
  have last : Event.visit? (.composed l.name d.tier d.roles d.fragmentIds.length
      d.statements.length) = none := rfl
  rw [notes_compose composed, Event.visits, List.filterMap_append, List.filterMap_flatMap,
    List.filterMap_cons_none last, List.filterMap_nil, List.append_nil, List.map_eq_flatMap]
  have each (f : Fragment) : (f.notes store).filterMap Event.visit? =
      [(f.id, f.guard.holds store)] := Fragment.visits_notes
  simp only [each]

end Library
end SandboxProfile
