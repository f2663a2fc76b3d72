import SandboxProfile.Proofs.Policy.Origin

/-! Requirements. What a sort of statements requires of the target is read off the conditions
in front of its leaves. If every leaf of the sort stands behind all of the requirements, and
one of them behind nothing else, then statements of the sort stand in a document exactly if
the target is as required. -/
namespace SandboxProfile

/-- What can be required of a target: an operation, or a bound on its version. -/
inductive Requirement where
  | primitive (name : String)
  | since (oldest : Int)
  | upTo (newest : Int)
  deriving DecidableEq

def Requirement.IsMet (store : Store) (version : Int) : Requirement → Prop
  | .primitive name => store.defines name = .ok true
  | .since oldest => oldest ≤ version
  | .upTo newest => version ≤ newest

/-- The bound on a version that a comparison with it stands for. -/
def Comparison.requirement? : Comparison → Int → Bool → Option Requirement
  | .ge, value, true | .lt, value, false => some (.since value)
  | .gt, value, true | .le, value, false => some (.since (value + 1))
  | .le, value, true | .gt, value, false => some (.upTo value)
  | .lt, value, true | .ge, value, false => some (.upTo (value - 1))
  | .eq, _, _ => none

namespace Condition

/-- The requirement that a condition is, if it is one. -/
def requirement? : Condition → Option Requirement
  | ⟨.defined name, true⟩ => some (.primitive name)
  | ⟨.compare param op value, expected⟩ =>
    if param = versionParameter then op.requirement? value expected else none
  | _ => none

/-- Whether a condition is met as soon as the requirements are, with a toggle in one
position. -/
def follows (toggle : String) (on : Bool) (requirements : List Requirement) (c : Condition) :
    Bool :=
  match c with
  | ⟨.always, true⟩ => true
  | ⟨.isTrue name, expected⟩ => name == toggle && expected == on
  | c => c.requirement?.any (requirements.contains ·)

variable {store : Store} {version : Int} {c : Condition} {r : Requirement}

theorem isMet_iff_of_requirement?
    (number : store.setting versionParameter = .ok (some (.number version)))
    (told : c.requirement? = some r) : c.isMet store = true ↔ r.IsMet store version := by
  obtain ⟨guard, expected⟩ := c
  cases guard with
  | defined name =>
    cases expected with
    | false => contradiction
    | true =>
      obtain rfl := Option.some.inj told
      simp [isMet, Requirement.IsMet, Guard.holds_defined]
  | compare param op value =>
    simp only [requirement?] at told
    split at told
    · next same =>
      subst same
      rw [isMet, beq_iff_eq, Guard.holds_compare number]
      cases op <;> cases expected <;>
        simp only [Comparison.requirement?, reduceCtorEq, Option.some.injEq] at told <;>
        subst told <;>
        simp only [Comparison.holds, Requirement.IsMet, decide_eq_true_eq,
          decide_eq_false_iff_not] <;>
        omega
    · contradiction
  | _ => cases expected <;> contradiction

theorem isMet_of_follows {toggle : String} {on : Bool} {requirements : List Requirement}
    (number : store.setting versionParameter = .ok (some (.number version)))
    (toggled : store.setting toggle = .ok (some (.flag on)))
    (met : ∀ r ∈ requirements, r.IsMet store version)
    (follows : c.follows toggle on requirements = true) : c.isMet store = true := by
  unfold Condition.follows at follows
  split at follows
  · rfl
  · next name expected =>
    simp only [Bool.and_eq_true, beq_iff_eq] at follows
    obtain ⟨rfl, rfl⟩ := follows
    rw [isMet, Guard.holds_isTrue toggled, beq_self_eq_true]
  · cases told : c.requirement? with
    | none => simp [told] at follows
    | some r =>
      simp only [told, Option.any_some, List.contains_eq_mem, decide_eq_true_eq] at follows
      exact (isMet_iff_of_requirement? number told).mpr (met r follows)

end Condition

/-- Whether a requirement stands among the conditions of a clause. -/
def Clause.needs (c : Clause) (r : Requirement) : Bool :=
  c.conditions.any fun d => d.requirement? = some r

namespace Library
variable {l : Library} {store : Store} {version : Int} {tier : Option Tier} {roles : List String}
  {sort : Statement → Bool} {requirements : List Requirement}

/-- Whether every leaf of a sort of statements stands behind all of the requirements. -/
def Gates (l : Library) (sort : Statement → Bool) (requirements : List Requirement) : Prop :=
  ∀ f ∈ l.fragments, ∀ c ∈ f.clauses, sort c.statement = true → ∀ r ∈ requirements, c.needs r = true

instance (l : Library) (sort : Statement → Bool) (requirements : List Requirement) :
    Decidable (l.Gates sort requirements) :=
  inferInstanceAs (Decidable (∀ f ∈ l.fragments, ∀ c ∈ f.clauses, sort c.statement = true →
    ∀ r ∈ requirements, c.needs r = true))

/-- Whether, for each position of a toggle, a finished leaf of the base stands behind
nothing but the requirements. -/
def Supplies (l : Library) (toggle : String) (sort : Statement → Bool)
    (requirements : List Requirement) : Prop :=
  ∀ on, ∃ f ∈ l.base, ∃ c ∈ f.clauses, sort c.statement = true ∧ c.statement.isFixed = true ∧
    ∀ d ∈ c.conditions, d.follows toggle on requirements = true

instance (l : Library) (toggle : String) (sort : Statement → Bool)
    (requirements : List Requirement) : Decidable (l.Supplies toggle sort requirements) :=
  inferInstanceAs (Decidable (∀ on, ∃ f ∈ l.base, ∃ c ∈ f.clauses, sort c.statement = true ∧
    c.statement.isFixed = true ∧ ∀ d ∈ c.conditions, d.follows toggle on requirements = true))

/-- Whether the renames of a library, and what stands inside arguments, have no influence on
a sort of statements. -/
def Keeps (l : Library) (store : Store) (sort : Statement → Bool) : Prop :=
  ∀ a b : Statement, b.skeleton = a.skeleton → sort (b.rename (l.renames store)) = sort a

section Resolved
variable (number : store.setting versionParameter = .ok (some (.number version)))
  (resolves : l.Resolves store tier roles) (kept : l.Keeps store sort)
include number resolves kept

theorem isMet_of_gates (gates : l.Gates sort requirements) {a : Statement}
    (member : a ∈ (l.assembled store tier roles).statements) (sorted : sort a = true) :
    ∀ r ∈ requirements, r.IsMet store version := by
  obtain ⟨f, inRow, c, listed, b, given, rfl⟩ := (mem_statements_iff resolves).mp member
  rw [kept c.statement b (Clause.skeleton_of_yield given)] at sorted
  intro r required
  have needed := gates f (mem_fragments_of_mem_sequence inRow) c listed sorted r required
  obtain ⟨d, condition, told⟩ := List.any_eq_true.mp needed
  have met := List.all_eq_true.mp (Clause.isInForce_of_yield given) d condition
  exact (Condition.isMet_iff_of_requirement? number (of_decide_eq_true told)).mp met

theorem exists_of_supplies {toggle : String} {on : Bool}
    (toggled : store.setting toggle = .ok (some (.flag on)))
    (supplies : l.Supplies toggle sort requirements)
    (met : ∀ r ∈ requirements, r.IsMet store version) :
    ∃ a ∈ (l.assembled store tier roles).statements, sort a = true := by
  obtain ⟨f, inBase, c, listed, sorted, finished, follows⟩ := supplies on
  have inRow : f ∈ l.sequence tier roles := by
    simp [sequence, following, inBase]
  have inForce : c.isInForce store = true := List.all_eq_true.mpr fun d condition =>
    Condition.isMet_of_follows number toggled met (follows d condition)
  have given := Clause.yield_of_isFixed inForce finished
  refine ⟨_, (mem_statements_iff resolves).mpr ⟨f, inRow, c, listed, _, given, rfl⟩, ?_⟩
  rw [kept c.statement c.statement rfl]
  exact sorted

theorem exists_iff_of_gates {toggle : String} {on : Bool}
    (toggled : store.setting toggle = .ok (some (.flag on)))
    (gates : l.Gates sort requirements) (supplies : l.Supplies toggle sort requirements) :
    (∃ a ∈ (l.assembled store tier roles).statements, sort a = true) ↔
      ∀ r ∈ requirements, r.IsMet store version := by
  constructor
  · rintro ⟨a, member, sorted⟩
    exact isMet_of_gates number resolves kept gates member sorted
  · exact exists_of_supplies number resolves kept toggled supplies

end Resolved
end Library
end SandboxProfile
