import SandboxProfile.Config.Load
import SandboxProfile.Proofs.Outcome
import SandboxProfile.Proofs.Table

/-! The environment over a table. A variable needs the section of its setting to be a table or
missing; then the section has its setting, where the last variable for one counts, and everything
else as it was. -/
namespace SandboxProfile

namespace Value

theorem entry?_eq_lookup (key : String) (entries : List (Value × Value)) :
    entry? key entries = entries.lookup (.text key) := by
  rw [ entry?]
  induction entries with
  | nil => rfl
  | cons entry rest ih =>
    obtain ⟨k, v⟩ := entry
    have turned : (k == Value.text key) = (Value.text key == k) := BEq.comm
    rw [Table.lookup_cons_eq, ← ih, List.find?_cons]
    dsimp only
    rw [turned]
    cases Value.text key == k <;> rfl

theorem entry?_insert (key k : String) (v : Value) (entries : List (Value × Value)) :
    entry? k (Table.insert (.text key) v entries) =
      if k = key then some v else entry? k entries := by
  rw [entry?_eq_lookup, Table.lookup_insert, ← entry?_eq_lookup]
  by_cases same : k = key
  · rw [if_pos same, same, if_pos (beq_self_eq_true _)]
  · rw [if_neg same, if_neg fun equal => same (Value.text.inj (eq_of_beq equal))]

end Value

namespace Config
variable {group : String} {entries inner : List (Value × Value)}

/-- What a table has in a section: nothing where the section is missing. What is no table is no
section. -/
def contents? (group : String) (entries : List (Value × Value)) : Option (List (Value × Value)) :=
  match Value.entry? group entries with
  | none => some []
  | some (.table inner) => some inner
  | some _ => none

theorem contents?_nil (group : String) : contents? group [] = some [] := rfl

theorem contents?_insert (group g : String) (inner entries : List (Value × Value)) :
    contents? g (Table.insert (.text group) (.table inner) entries) =
      if g = group then some inner else contents? g entries := by
  rw [contents?, Value.entry?_insert]
  by_cases same : g = group
  · rw [if_pos same, if_pos same]
  · rw [if_neg same, if_neg same]
    rfl

end Config

namespace Override
open Config (contents?)
variable {o : Override} {os : List Override} {group key : String}
  {entries out inner : List (Value × Value)}

theorem apply_eq (entries : List (Value × Value)) (o : Override) : apply entries o =
    o.value >>= fun v =>
      match contents? o.group entries with
      | none => .error .notSection
      | some inner => .ok (Table.insert (.text o.group)
          (.table (Table.insert (.text o.key) v inner)) entries) := by
  unfold apply contents?
  cases o.value with
  | error fault => rfl
  | ok v =>
    rcases Value.entry? o.group entries with _ | w
    · rfl
    · cases w <;> rfl

theorem apply_eq_ok : apply entries o = .ok out ↔ ∃ v inner, o.value = .ok v ∧
    contents? o.group entries = some inner ∧
    Table.insert (.text o.group) (.table (Table.insert (.text o.key) v inner)) entries = out := by
  rw [apply_eq, Outcome.bind_eq_ok]
  cases contents? o.group entries <;> simp

/-- The value that the last of some variables has for a setting. -/
def latest (group key : String) : List Override → Option Value
  | [] => none
  | o :: rest =>
    (latest group key rest).or (if o.group = group ∧ o.key = key then o.value.toOption else none)

/-- What holds of every setting that the environment gives, by the variables that are set. -/
theorem forall_ofEnvironment {env : Environment} {p : Override → Prop} :
    (∀ o ∈ ofEnvironment env, p o) ↔ ∀ row ∈ known, ∀ s, env.value? row.1 = some s →
      p ⟨row.2.1, row.2.2.1, row.2.2.2 s⟩ := by
  unfold ofEnvironment
  simp only [List.mem_filterMap, Option.map_eq_some_iff]
  constructor
  · intro all row member s given
    exact all _ ⟨row, member, s, given, rfl⟩
  · rintro all o ⟨row, member, s, given, rfl⟩
    exact all row member s given

/-! ### One variable -/

/-- What was a section is one, and nothing else is. -/
theorem isSome_contents?_of_apply (applied : apply entries o = .ok out) (group : String) :
    (contents? group out).isSome = (contents? group entries).isSome := by
  obtain ⟨v, inner, -, had, rfl⟩ := apply_eq_ok.mp applied
  rw [Config.contents?_insert]
  by_cases same : group = o.group
  · rw [if_pos same, same, had]
    rfl
  · rw [if_neg same]

theorem contents?_of_apply (applied : apply entries o = .ok out)
    (had : contents? group entries = some inner) : ∃ inner', contents? group out = some inner' ∧
      ∀ key, Value.entry? key inner' = (latest group key [o]).or (Value.entry? key inner) := by
  obtain ⟨v, old, given, here, rfl⟩ := apply_eq_ok.mp applied
  rw [Config.contents?_insert]
  by_cases same : group = o.group
  · subst same
    obtain rfl := Option.some.inj (here.symm.trans had)
    refine ⟨_, if_pos rfl, fun key => ?_⟩
    rw [Value.entry?_insert]
    by_cases sameKey : key = o.key
    · simp [latest, sameKey, given, Except.toOption]
    · simp [latest, sameKey, Ne.symm sameKey]
  · refine ⟨inner, by rw [if_neg same, had], fun key => ?_⟩
    simp [latest, Ne.symm same]

/-! ### All variables -/

/-- By induction on the variables: none of them makes a section of what is none, or takes one
away. -/
theorem exists_foldlM_apply : (∃ out, os.foldlM apply entries = .ok out) ↔
    ∀ o ∈ os, (∃ v, o.value = .ok v) ∧ (contents? o.group entries).isSome := by
  induction os generalizing entries with
  | nil => exact ⟨fun _ => List.forall_mem_nil _, fun _ => ⟨entries, rfl⟩⟩
  | cons o rest ih =>
    rw [List.foldlM_cons, List.forall_mem_cons, Outcome.exists_bind]
    constructor
    · rintro ⟨next, first, others⟩
      obtain ⟨v, inner, given, had, -⟩ := apply_eq_ok.mp first
      refine ⟨⟨⟨v, given⟩, by rw [had]; rfl⟩, fun other member => ?_⟩
      rw [← isSome_contents?_of_apply first]
      exact ih.mp others other member
    · rintro ⟨⟨⟨v, given⟩, had⟩, others⟩
      obtain ⟨inner, had⟩ := Option.isSome_iff_exists.mp had
      have first := apply_eq_ok.mpr ⟨v, inner, given, had, rfl⟩
      refine ⟨_, first, ih.mpr fun other member => ?_⟩
      rw [isSome_contents?_of_apply first]
      exact others other member

theorem latest_cons (o : Override) (rest : List Override) :
    latest group key (o :: rest) = (latest group key rest).or (latest group key [o]) := by
  simp [latest]

/-- By induction on the variables: of those for one setting the last one counts. -/
theorem contents?_of_foldlM (applied : os.foldlM apply entries = .ok out)
    (had : contents? group entries = some inner) : ∃ inner', contents? group out = some inner' ∧
      ∀ key, Value.entry? key inner' = (latest group key os).or (Value.entry? key inner) := by
  induction os generalizing entries inner with
  | nil =>
    obtain rfl := Except.ok.inj applied
    exact ⟨inner, had, fun key => rfl⟩
  | cons o rest ih =>
    rw [List.foldlM_cons] at applied
    obtain ⟨next, first, others⟩ := Outcome.bind_eq_ok.mp applied
    obtain ⟨between, there, here⟩ := contents?_of_apply first had
    obtain ⟨inner', last, each⟩ := ih others there
    refine ⟨inner', last, fun key => ?_⟩
    rw [each, here, latest_cons o rest, Option.or_assoc]

end Override
end SandboxProfile
