import SandboxProfile.Proofs.Policy.Section
import Mathlib.Data.List.Flatten

/-! Addition of roles. Each role that is asked for adds its own block to a document, and
the blocks of two roles have no fragment in common. So roles add up unless one that has an
addendum is asked for twice. -/
namespace SandboxProfile

/-- What a document grants, and the fragments that it comes from. -/
def Document.content (d : Document) : List Statement × List String := (d.statements, d.fragmentIds)

namespace Library
variable {l : Library} {store : Store} {tier : Option Tier} {roles others : List String}

theorem addendaOf_subperm (fewer : List.Subperm others roles) :
    List.Subperm (l.addendaOf others) (l.addendaOf roles) := by
  obtain ⟨row, reordered, sublist⟩ := fewer
  exact ⟨l.addendaOf row, reordered.flatMap_right _, sublist.flatMap _⟩

theorem Composes.fewer_roles (composes : l.Composes store tier roles)
    (fewer : List.Subperm others roles) : l.Composes store tier others where
  declared := composes.declared
  known role member := composes.known role (fewer.subset member)
  resolves := by
    apply composes.resolves.of_subperm
    rw [sequence_eq tier others, sequence_eq tier roles]
    exact (List.subperm_append_left _).mpr (addendaOf_subperm fewer)

/-- A role is asked for twice only if there is nothing in its addendum: the ids of a
second copy would be there already. -/
theorem Composes.addendum_eq_nil {role : String} (composes : l.Composes store tier roles)
    (twice : [role, role].Sublist roles) : l.addendum role = [] := by
  have distinct := (composes.fewer_roles twice.subperm).resolves.distinct
  rw [sequence_eq, List.map_append] at distinct
  have copies : ((l.addendum role).map (·.id) ++ (l.addendum role).map (·.id)).Nodup := by
    simpa [addendaOf] using (List.nodup_append.mp distinct).2.1
  cases addendum : l.addendum role with
  | nil => rfl
  | cons f rest =>
    rw [addendum] at copies
    exact absurd rfl ((List.nodup_append.mp copies).2.2 f.id List.mem_cons_self f.id
      List.mem_cons_self)

/-- The ids of two lists of roles are apart if no role with an addendum is in both. -/
theorem ids_addendaOf_ne {front back : List String}
    (apart : ∀ role ∈ front, role ∈ back → l.addendum role = []) :
    ∀ a ∈ (l.addendaOf front).map (·.id), ∀ b ∈ (l.addendaOf back).map (·.id), a ≠ b := by
  intro a first b second same
  obtain ⟨f, hf, rfl⟩ := List.mem_map.mp first
  obtain ⟨g, hg, rfl⟩ := List.mem_map.mp second
  obtain ⟨role, inFront, hf⟩ := List.mem_flatMap.mp hf
  obtain ⟨other, inBack, hg⟩ := List.mem_flatMap.mp hg
  obtain rfl := role_eq_of_shared_id hf hg same
  rw [apart role inFront inBack] at hf
  contradiction

theorem Resolves.append {front back : List String} (first : l.Resolves store tier front)
    (second : l.Resolves store tier back)
    (apart : ∀ role ∈ front, role ∈ back → l.addendum role = []) :
    l.Resolves store tier (front ++ back) where
  fragments f member := by
    rw [sequence_eq, addendaOf_append, ← List.append_assoc, ← sequence_eq] at member
    rcases List.mem_append.mp member with early | late
    · exact first.fragments f early
    · refine second.fragments f ?_
      rw [sequence_eq]
      exact List.mem_append_right _ late
  distinct := by
    have early := first.distinct
    have late := second.distinct
    rw [sequence_eq, List.map_append] at early late
    obtain ⟨shared, inFront, frontApart⟩ := List.nodup_append.mp early
    obtain ⟨-, inBack, backApart⟩ := List.nodup_append.mp late
    rw [sequence_eq, addendaOf_append, List.map_append, List.map_append, List.nodup_append]
    refine ⟨shared, List.nodup_append.mpr ⟨inFront, inBack, ids_addendaOf_ne apart⟩, ?_⟩
    intro a member b added
    rcases List.mem_append.mp added with added | added
    · exact frontApart a member b added
    · exact backApart a member b added
  posture := first.posture
  aliases := first.aliases

theorem composes_append_iff {front back : List String} :
    l.Composes store tier (front ++ back) ↔ l.Composes store tier front ∧
      l.Composes store tier back ∧ ∀ role ∈ front, role ∈ back → l.addendum role = [] := by
  constructor
  · intro composes
    refine ⟨composes.fewer_roles (List.sublist_append_left _ _).subperm,
      composes.fewer_roles (List.sublist_append_right _ _).subperm, ?_⟩
    intro role inFront inBack
    have once := List.singleton_sublist.mpr inFront
    have again := List.singleton_sublist.mpr inBack
    exact composes.addendum_eq_nil (once.append again)
  · rintro ⟨first, second, apart⟩
    exact ⟨first.declared, List.forall_mem_append.mpr ⟨first.known, second.known⟩,
      first.resolves.append second.resolves apart⟩

/-- What stands behind the posture is all that a composition looks at. -/
theorem composeSelected_content_congr
    (same : l.following tier roles = l.following tier others) :
    (l.composeSelected store tier roles).result.map Document.content =
      (l.composeSelected store tier others).result.map Document.content := by
  have faults : l.faults store tier roles = l.faults store tier others := by
    rw [Library.faults, same, ← Library.faults]
  have content : (l.assembled store tier roles).content =
      (l.assembled store tier others).content := by
    simp only [Document.content, assembled, sequence, same]
  rw [composeSelected_result, composeSelected_result, faults]
  cases leftmost (l.faults store tier others) with
  | some fault => rfl
  | none => exact congrArg Except.ok content

/-- A role with nothing in its addendum adds nothing, neither a statement nor a fault. -/
theorem compose_content_of_empty {requested : Value} {role : String} {front back : List String}
    (empty : l.addendum? role = some []) :
    (l.compose store requested (front ++ role :: back)).result.map Document.content =
      (l.compose store requested (front ++ back)).result.map Document.content := by
  have known : l.checkRoles (front ++ role :: back) = l.checkRoles (front ++ back) := by
    simp [checkRoles, List.find?_append, empty]
  have addenda : l.addendaOf (front ++ role :: back) = l.addendaOf (front ++ back) := by
    simp [addendaOf, addendum, empty]
  simp only [compose, composeChosen, Traced.result_bind, Traced.result_ofExcept, known]
  cases selectTier requested with
  | error fault => rfl
  | ok tier =>
    simp only [Outcome.ok_bind]
    cases l.checkTier tier with
    | error fault => rfl
    | ok _ =>
      simp only [Outcome.ok_bind]
      cases l.checkRoles (front ++ back) with
      | error fault => rfl
      | ok _ =>
        apply composeSelected_content_congr
        rw [following_eq, addenda, ← following_eq]

/-- The statements of a document are those for no roles and behind them one block for
each role, in the order of the roles. -/
theorem statements_eq_blocks (roles : List String) : (l.assembled store tier roles).statements =
    (l.assembled store tier []).statements ++
      roles.flatMap fun role => l.granted store (l.addendum role) := by
  rw [assembled_statements, assembled_statements, granted_addendaOf, granted_addendaOf,
    List.flatMap_nil, List.append_nil]

variable {requested : Value}

theorem exists_document_iff : (∃ d, (l.compose store requested roles).result = .ok d) ↔
    ∃ tier, selectTier requested = .ok tier ∧ l.Composes store tier roles := by
  constructor
  · rintro ⟨d, composed⟩
    obtain ⟨tier, asked, declared, known, resolves, -⟩ := compose_eq_ok_iff.mp composed
    exact ⟨tier, asked, declared, known, resolves⟩
  · rintro ⟨tier, asked, composes⟩
    exact ⟨_, (compose_eq_ok asked).mpr ⟨composes, rfl⟩⟩

theorem exists_document_append_iff {front back : List String} :
    (∃ d, (l.compose store requested (front ++ back)).result = .ok d) ↔
      (∃ d, (l.compose store requested front).result = .ok d) ∧
      (∃ d, (l.compose store requested back).result = .ok d) ∧
      ∀ role ∈ front, role ∈ back → l.addendum role = [] := by
  simp only [exists_document_iff]
  constructor
  · rintro ⟨tier, asked, composes⟩
    obtain ⟨first, second, apart⟩ := composes_append_iff.mp composes
    exact ⟨⟨tier, asked, first⟩, ⟨tier, asked, second⟩, apart⟩
  · rintro ⟨⟨tier, asked, first⟩, ⟨other, same, second⟩, apart⟩
    obtain rfl := Except.ok.inj (asked.symm.trans same)
    exact ⟨tier, asked, composes_append_iff.mpr ⟨first, second, apart⟩⟩

/-- What roles add to the document for other roles is what they add to the document for
none. -/
theorem statements_of_append {front back : List String} {d : Document}
    (composed : (l.compose store requested (front ++ back)).result = .ok d) :
    ∃ (first second bare : Document) (added : List Statement),
      (l.compose store requested front).result = .ok first ∧
      (l.compose store requested back).result = .ok second ∧
      (l.compose store requested []).result = .ok bare ∧
      d.statements = first.statements ++ added ∧
      second.statements = bare.statements ++ added := by
  obtain ⟨tier, asked, -⟩ := compose_eq_ok_iff.mp composed
  obtain ⟨composes, rfl⟩ := (compose_eq_ok asked).mp composed
  obtain ⟨inFront, inBack, -⟩ := composes_append_iff.mp composes
  have unasked := inFront.fewer_roles List.nil_subperm
  refine ⟨_, _, _, back.flatMap fun role => l.granted store (l.addendum role),
    (compose_eq_ok asked).mpr ⟨inFront, rfl⟩, (compose_eq_ok asked).mpr ⟨inBack, rfl⟩,
    (compose_eq_ok asked).mpr ⟨unasked, rfl⟩, ?_, statements_eq_blocks back⟩
  rw [statements_eq_blocks, statements_eq_blocks front, List.flatMap_append,
    List.append_assoc]

/-- Guards do not matter here: an id counts as used before its guard is looked at. -/
theorem fails_of_repeated {role : String} (twice : 2 ≤ roles.count role)
    (nonempty : l.addendum role ≠ []) :
    ∃ fault, (l.compose store requested roles).result = .error fault := by
  cases composed : (l.compose store requested roles).result with
  | error fault => exact ⟨fault, rfl⟩
  | ok d =>
    obtain ⟨tier, asked, -⟩ := compose_eq_ok_iff.mp composed
    obtain ⟨composes, -⟩ := (compose_eq_ok asked).mp composed
    exact absurd (composes.addendum_eq_nil (List.replicate_sublist_iff.mpr twice)) nonempty

/-- Roles in another order give the same blocks in that order. The block of a role is
what the role adds when it is asked for alone. -/
theorem statements_of_perm {d : Document} (reordered : roles.Perm others)
    (composed : (l.compose store requested roles).result = .ok d) :
    ∃ (bare e : Document) (block : String → List Statement),
      (l.compose store requested []).result = .ok bare ∧
      (l.compose store requested others).result = .ok e ∧
      d.statements = bare.statements ++ roles.flatMap block ∧
      e.statements = bare.statements ++ others.flatMap block ∧
      ∀ role ∈ roles, ∃ single, (l.compose store requested [role]).result = .ok single ∧
        single.statements = bare.statements ++ block role := by
  obtain ⟨tier, asked, -⟩ := compose_eq_ok_iff.mp composed
  obtain ⟨composes, rfl⟩ := (compose_eq_ok asked).mp composed
  have fewer {part : List String} (within : part.Subperm roles) :
      (l.compose store requested part).result = .ok (l.assembled store tier part) :=
    (compose_eq_ok asked).mpr ⟨composes.fewer_roles within, rfl⟩
  refine ⟨_, _, fun role => l.granted store (l.addendum role), fewer List.nil_subperm,
    fewer reordered.symm.subperm, statements_eq_blocks roles, statements_eq_blocks others, ?_⟩
  intro role member
  refine ⟨_, fewer (List.singleton_sublist.mpr member).subperm, ?_⟩
  rw [statements_eq_blocks, List.flatMap_singleton]

/-- Roles are additive. Two lists of roles compose together exactly if each composes
alone and no role with an addendum is in both, and then what each adds stays as it is. So
a role with an addendum cannot be asked for twice, a role with an empty one can always be
added or left out, and the order of the roles is the order of their blocks. -/
theorem roles_additive (l : Library) (store : Store) (requested : Value) :
    (∀ front back : List String,
      (∃ d, (l.compose store requested (front ++ back)).result = .ok d) ↔
        (∃ d, (l.compose store requested front).result = .ok d) ∧
        (∃ d, (l.compose store requested back).result = .ok d) ∧
        ∀ role ∈ front, role ∈ back → l.addendum role = []) ∧
    (∀ (front back : List String) (d : Document),
      (l.compose store requested (front ++ back)).result = .ok d →
        ∃ (first second bare : Document) (added : List Statement),
          (l.compose store requested front).result = .ok first ∧
          (l.compose store requested back).result = .ok second ∧
          (l.compose store requested []).result = .ok bare ∧
          d.statements = first.statements ++ added ∧
          second.statements = bare.statements ++ added) ∧
    (∀ (roles : List String) (role : String), 2 ≤ roles.count role → l.addendum role ≠ [] →
      ∃ fault, (l.compose store requested roles).result = .error fault) ∧
    (∀ (front back : List String) (role : String), l.addendum? role = some [] →
      (l.compose store requested (front ++ role :: back)).result.map Document.content =
        (l.compose store requested (front ++ back)).result.map Document.content) ∧
    ∀ (roles others : List String) (d : Document), roles.Perm others →
      (l.compose store requested roles).result = .ok d →
        ∃ (bare e : Document) (block : String → List Statement),
          (l.compose store requested []).result = .ok bare ∧
          (l.compose store requested others).result = .ok e ∧
          d.statements = bare.statements ++ roles.flatMap block ∧
          e.statements = bare.statements ++ others.flatMap block ∧
          ∀ role ∈ roles, ∃ single, (l.compose store requested [role]).result = .ok single ∧
            single.statements = bare.statements ++ block role :=
  ⟨fun _ _ => exists_document_append_iff, fun _ _ _ => statements_of_append,
    fun _ _ => fails_of_repeated, fun _ _ _ => compose_content_of_empty,
    fun _ _ _ => statements_of_perm⟩

/-- A role with an empty addendum, one with a fragment, and one with a fragment that is
never in force. -/
def rolesLibrary : Library where
  name := "roles"
  posture := ⟨"posture", [.leaf ⟨.deny, ["default"], [], [], none⟩], .always, ""⟩
  base := []
  tiers := []
  addenda := [("default", []),
    ("file", [⟨"file", [.leaf ⟨.allow, ["file-read*"], [], [], none⟩], .always, ""⟩]),
    ("audio", [⟨"audio", [.leaf ⟨.allow, ["device-microphone"], [], [], none⟩],
      .not .always, ""⟩])]
  aliases := []
  ids_nodup := by decide

theorem roles_additive_audio :
    (∃ d, (rolesLibrary.compose emptyStore .null
      (["default", "file"] ++ ["audio", "default"])).result = .ok d) ∧
    ∃ fault, (rolesLibrary.compose emptyStore .null ["audio", "file", "audio"]).result =
      .error fault := by
  obtain ⟨together, -, repeated, -, -⟩ := roles_additive rolesLibrary emptyStore .null
  constructor
  · refine (together _ _).mpr ⟨⟨_, rfl⟩, ⟨_, rfl⟩, fun role first second => ?_⟩
    simp only [List.mem_cons, List.not_mem_nil, or_false] at first
    rcases first with rfl | rfl
    · rfl
    · exact absurd second (by decide)
  · exact repeated _ "audio" (by decide) (List.cons_ne_nil _ _)

end Library
end SandboxProfile
