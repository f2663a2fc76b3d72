import SandboxProfile.Proofs.Policy.Finished
import SandboxProfile.Proofs.Policy.Reordered
import SandboxProfile.Proofs.Policy.Visit

/-! Explanations and compositions. An explanation goes through the sections of a library once
more and looks each id up in the document, instead of asking the guards again. It comes to
the same: its rows are the visits of the composition. -/
namespace SandboxProfile

namespace Guard

mutual
/-- Whether a guard consists of guards throughout, in the terms that are not looked at as
well. -/
def isProper : Guard → Bool
  | .all terms => areProper terms
  | .any terms => areProper terms
  | .not term => isProper term
  | .stray _ => false
  | _ => true

def areProper : List Guard → Bool
  | [] => true
  | g :: rest => isProper g && areProper rest
end

mutual
/-- Exactly what consists of guards has a description. -/
theorem isProper_iff : ∀ {g : Guard}, g.isProper = true ↔ ∃ text, g.describe = .ok text
  | .all terms => by
    rw [isProper, describe, Outcome.exists_map]
    exact areProper_iff
  | .any terms => by
    rw [isProper, describe, Outcome.exists_map]
    exact areProper_iff
  | .not term => by
    rw [isProper, describe, Outcome.exists_map]
    exact isProper_iff
  | .stray value => by simp [isProper, describe]
  | .always | .compare _ _ _ | .equals _ _ | .isTrue _ | .isSet _ | .defined _ => by
    simp [isProper, describe]

theorem areProper_iff : ∀ {terms : List Guard},
    areProper terms = true ↔ ∃ texts, describeTerms terms = .ok texts
  | [] => by simp [areProper, describeTerms]
  | g :: rest => by
    rw [areProper, describeTerms, Bool.and_eq_true, isProper_iff, areProper_iff,
      Outcome.exists_bind]
    simp only [Outcome.exists_bind_pure, exists_and_right]
end

end Guard

theorem Outcome.forall₂_of_mapM {ε α β : Type} {f : α → Except ε β} {items : List α}
    {results : List β} (given : items.mapM f = .ok results) :
    List.Forall₂ (fun a b => f a = .ok b) items results := by
  induction items generalizing results with
  | nil =>
    obtain rfl := Except.ok.inj given
    exact .nil
  | cons a rest ih =>
    rw [List.mapM_cons] at given
    obtain ⟨b, here, given⟩ := Outcome.bind_eq_ok.mp given
    obtain ⟨others, later, given⟩ := Outcome.bind_eq_ok.mp given
    obtain rfl := Except.ok.inj given
    exact .cons here (ih later)

theorem ExplainRow.exists_lines {row : ExplainRow} :
    (∃ lines, row.lines = .ok lines) ↔ row.fragment.guard.isProper = true := by
  rw [lines, Guard.isProper_iff, Outcome.exists_bind_pure]

namespace Library
variable {l : Library} {store : Store} {tier : Option Tier} {roles : List String} {d : Document}

/-- The sections are gone through in the order of the composition. -/
theorem consideredSections_fragments :
    (l.consideredSections tier roles).map (·.2) = l.sequence tier roles := by
  rw [sequence, ← considered_eq_following, considered, consideredSections]
  simp [List.map_flatMap, Function.comp_def]

theorem explainRows_fragments :
    (l.explainRows d).map (·.fragment) = l.sequence d.tier d.roles := by
  rw [← consideredSections_fragments, explainRows, List.map_map]
  rfl

theorem mem_sequence_of_mem_explainRows {row : ExplainRow} (member : row ∈ l.explainRows d) :
    row.fragment ∈ l.sequence d.tier d.roles := by
  rw [← explainRows_fragments]
  exact List.mem_map_of_mem member

/-- The ids in a document tell which fragments it is made of, since no id is there twice. -/
theorem included_eq_holds (resolves : l.Resolves store tier roles) {row : ExplainRow}
    (member : row ∈ l.explainRows (l.assembled store tier roles)) :
    row.included = row.fragment.guard.holds store := by
  have inRow := mem_sequence_of_mem_explainRows member
  obtain ⟨⟨part, f⟩, -, rfl⟩ := List.mem_map.mp member
  rw [Bool.eq_iff_iff, List.contains_iff_mem, assembled, List.mem_map]
  constructor
  · rintro ⟨g, included, same⟩
    obtain ⟨listed, holds⟩ := List.mem_filter.mp included
    obtain rfl := List.inj_on_of_nodup_map resolves.distinct listed inRow same
    exact holds
  · intro holds
    exact ⟨f, List.mem_filter.mpr ⟨inRow, holds⟩, rfl⟩

/-- What the rows of an explanation say of a document: they are the fragments that were
visited, in the order of the visits, each of them once, and a fragment is marked exactly if its
guard is true. -/
structure Tells (l : Library) (store : Store) (notes : List Event) (d : Document) : Prop where
  fragments : (l.explainRows d).map (·.fragment) = l.sequence d.tier d.roles
  visits : (l.explainRows d).map (fun row => (row.fragment.id, row.included)) = Event.visits notes
  distinct : ((l.explainRows d).map (·.fragment.id)).Nodup
  guards : ∀ row ∈ l.explainRows d,
    row.included = true ↔ row.fragment.guard.evaluate store = .ok true
  included : ((l.explainRows d).filter (·.included)).map (·.fragment.id) = d.fragmentIds

theorem tells_of_compose {requested : Value}
    (composed : (l.compose store requested roles).result = .ok d) :
    l.Tells store (l.compose store requested roles).notes d := by
  have visited := visits_compose composed
  obtain ⟨tier, -, -, -, resolves, rfl⟩ := compose_eq_ok_iff.mp composed
  have marks (row : ExplainRow) (member : row ∈ l.explainRows (l.assembled store tier roles)) :=
    included_eq_holds resolves member
  have fragments : (l.explainRows (l.assembled store tier roles)).map (·.fragment) =
      l.sequence tier roles := explainRows_fragments
  have documented : (l.assembled store tier roles).fragmentIds =
      ((l.sequence tier roles).filter fun f => f.guard.holds store).map (·.id) := rfl
  exact {
    fragments
    visits := by
      rw [visited, ← explainRows_fragments, List.map_map]
      exact List.map_congr_left fun row member => congrArg _ (marks row member)
    distinct := by
      have ids := resolves.distinct
      rwa [← fragments, List.map_map] at ids
    guards := by
      intro row member
      rw [marks row member]
      exact Guard.holds_iff
    included := by
      rw [List.filter_congr marks, documented, ← fragments, List.filter_map, List.map_map]
      rfl }

/-! ### The text -/

/-- A text about a document: a head with the hash, the parameters, the lines of each row, and
behind them how many rows are marked and how many statements there are. -/
def Writes (l : Library) (store : Store) (d : Document) (text : String) : Prop :=
  ∃ (hash : String) (shown : List (List String)), d.contentHash = .ok hash ∧
    List.Forall₂ (fun row lines => row.lines = .ok lines) (l.explainRows d) shown ∧
    let roles := (Value.list (d.roles.map .text)).literal
    let marked := (l.explainRows d).filter (·.included)
    text = Text.joinWith "\n"
      ((s!"Library: {Text.quoted l.name}  (tier={tierText d.tier}, roles={roles}, " ++
          s!"hash={hash})") :: "" :: store.explain :: "" :: shown.flatten ++
        ["", s!"{marked.length} fragment(s) included, " ++
          s!"{d.statements.length} statement(s) emitted"])

theorem exists_explainDocument (store : Store) (hashed : ∃ hash, d.contentHash = .ok hash)
    (described : ∀ row ∈ l.explainRows d, row.fragment.guard.isProper = true)
    (counted : d.fragmentIds.length = ((l.explainRows d).filter (·.included)).length) :
    ∃ text, l.explainDocument store d = .ok text ∧ l.Writes store d text := by
  obtain ⟨hash, hashed⟩ := hashed
  obtain ⟨shown, written⟩ := Outcome.exists_mapM.mpr fun row member =>
    ExplainRow.exists_lines.mpr (described row member)
  unfold explainDocument
  rw [hashed, Outcome.ok_bind]
  dsimp only
  rw [written, Outcome.ok_bind, counted]
  exact ⟨_, rfl, hash, shown, hashed, Outcome.forall₂_of_mapM written, rfl⟩

/-- The result of an explanation, given that of the composition. -/
theorem explain_result (requested : Value) : (l.explain store requested roles).result =
    match (l.compose store requested roles).result with
    | .error fault => .error (.inl fault)
    | .ok d => (l.explainDocument store d).mapError .inr := by
  rw [explain, Traced.result_bind, Traced.mapError]
  cases (l.compose store requested roles).result <;> rfl

theorem explain_of_compose (proper : l.isProper = true)
    (guards : ∀ f ∈ l.fragments, f.guard.isProper = true) {requested : Value}
    (composed : (l.compose store requested roles).result = .ok d) :
    ∃ text, (l.explain store requested roles).result = .ok text ∧ l.Writes store d text := by
  have counted := congrArg List.length (tells_of_compose composed).included
  rw [List.length_map] at counted
  have described (row : ExplainRow) (member : row ∈ l.explainRows d) :
      row.fragment.guard.isProper = true :=
    guards _ (mem_fragments_of_mem_sequence (mem_sequence_of_mem_explainRows member))
  have hashed : ∃ hash, d.contentHash = .ok hash := by
    obtain ⟨tier, -, -, -, resolves, rfl⟩ := compose_eq_ok_iff.mp composed
    exact Outcome.exists_map.mpr
      (Document.exists_emit_iff.mpr (isFixed_of_mem_statements proper resolves))
  obtain ⟨text, explained, written⟩ := exists_explainDocument store hashed described
    counted.symm
  refine ⟨text, ?_, written⟩
  rw [explain_result, composed]
  dsimp only
  rw [explained]
  rfl

theorem explain_of_reordered {t : Store} (reordered : store.Reordered t) (requested : Value)
    (roles : List String) :
    l.explain t requested roles = l.explain store requested roles := by
  have composed : (l.compose t requested roles).Upheld False (l.compose store requested roles) :=
    compose_upheld (fun m _ => (reordered.agreeOn m).upholds) requested roles
  unfold explain explainDocument
  rw [composed.eq, reordered.explain_eq]

/-- A fragment for each answer to a toggle, of which one is left out, and one for a role. -/
def answeringLibrary : Library where
  name := "answering"
  posture := ⟨"posture", [.leaf ⟨.deny, ["default"], [], [], none⟩], .always, ""⟩
  base := [⟨"quiet", [.leaf ⟨.allow, ["signal"], [], ["no-log"], none⟩], .isTrue "QUIET", ""⟩,
    ⟨"cache", [.leaf ⟨.allow, ["file-read*"],
      [.only .subpath (.template [.ref ⟨"CACHE", false, true⟩]) []], [], none⟩],
      .all [.isSet "CACHE", .not (.isTrue "QUIET")], "Files that can be made again."⟩]
  tiers := []
  addenda := [("file", [⟨"file", [.leaf ⟨.allow, ["file-write*"], [], [], none⟩], .always, ""⟩])]
  aliases := []
  ids_nodup := by decide

def answeringCalls : List Call :=
  [.bind "QUIET" "bool" (.text "false"), .bind "CACHE" "path" (.text "/c")]

def answeringStore : Store := (Store.create none none).after answeringCalls

def answeringDocument : Document where
  statements := [⟨.deny, ["default"], [], [], none⟩,
    ⟨.allow, ["file-read*"], [.only .subpath (.text "/c") []], [], none⟩,
    ⟨.allow, ["file-write*"], [], [], none⟩]
  tier := none
  roles := ["file"]
  fragmentIds := ["posture", "cache", "file"]
  library := "answering"

end Library
end SandboxProfile
