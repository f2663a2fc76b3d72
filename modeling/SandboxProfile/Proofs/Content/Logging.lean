import SandboxProfile.Proofs.Content.Layout
import SandboxProfile.Proofs.Policy.Paired

/-! Logging. A content profile that logs denials denies and permits what the quiet one does.
The denials are no longer quiet, one more statement behind them asks for the report, and
there is no other difference. -/
namespace SandboxProfile.Content

def unmodified (a : Statement) : Statement := { a with modifiers := [] }

theorem unmodified_eq_self {a : Statement} (plain : a.modifiers = []) : unmodified a = a := by
  rw [unmodified, ← plain]

/-- A row of quiet denials, and the same denials when they are logged. -/
structure Muted (xs ys : List Statement) : Prop where
  quiet : ∀ a ∈ xs, a.action = .deny ∧ a.modifiers = ["no-log"]
  loud : ys = xs.map unmodified

/-- A document, and the same document with a log of its denials. -/
structure Logged (d e : Document) : Prop where
  statements : ∃ denials permissions, denials ≠ [] ∧
    (∀ a ∈ denials, a.action = .deny ∧ a.modifiers = ["no-log"]) ∧
    (∀ a ∈ permissions, a.action = .allow) ∧
    d.statements = denials ++ permissions ∧
    e.statements = denials.map unmodified ++ debugDeny :: permissions.map unmodified
  tier : e.tier = d.tier
  roles : e.roles = d.roles
  library : e.library = d.library
  fragmentIds : ∃ front back, d.fragmentIds = front ++ back ∧
    e.fragmentIds = front ++ debugLogging.id :: back

theorem Muted.nil : Muted [] [] := ⟨by simp, rfl⟩

theorem Muted.append {xs ys more others : List Statement} (first : Muted xs ys)
    (later : Muted more others) : Muted (xs ++ more) (ys ++ others) where
  quiet := List.forall_mem_append.mpr ⟨first.quiet, later.quiet⟩
  loud := by rw [first.loud, later.loud, List.map_append]

theorem Muted.rename {xs ys : List Statement} (muted : Muted xs ys)
    (renames : List (String × String)) :
    Muted (xs.map (Statement.rename renames)) (ys.map (Statement.rename renames)) where
  quiet := List.forall_mem_map.mpr muted.quiet
  loud := by
    rw [muted.loud, List.map_map, List.map_map]
    rfl

/-! What the fragments say about the log. -/

/-- The denials of single operations and what each of them is for. -/
theorem extraDenies_eq : ∃ rows : List (Guard × String),
    extraDenies.body = rows.map (fun row => whenHolds row.1 [denyQuietly row.2]) ∧
      ∀ row ∈ rows, .parameter shouldLog ∉ row.1.mentions :=
  ⟨[(.versionAtLeast 1009, "process-info*"), (.defined "nvram*", "nvram*"),
    (iokitGetProperties, "iokit-get-properties"), (fileMapExecutable, "file-map-executable")],
    rfl, by decide⟩

theorem permissions_silent : ∀ f ∈ permissions, .parameter shouldLog ∉ f.mentions := by
  decide +kernel

theorem aliases_silent : ∀ a ∈ library.aliases, .parameter shouldLog ∉ a.guard.mentions := by
  decide +kernel

variable {s t : Store} {tier : Option Tier} {roles : List String}

section Switched
variable (switch : Store.SwitchOn shouldLog s t)
include switch

theorem denyQuietly_muted (id operation : String) :
    Agree Eq Muted ((denyQuietly operation).resolve s id).result
      ((denyQuietly operation).resolve t id).result := by
  rw [resolve_denyQuietly switch.off, resolve_denyQuietly switch.on]
  exact .ok ⟨by simp [quietly], rfl⟩

theorem denyQuietly_row_muted (id operation : String) :
    Agree Eq Muted (Node.resolveList s id [denyQuietly operation]).result
      (Node.resolveList t id [denyQuietly operation]).result :=
  Node.resolveList_agree_of_append Muted.nil Muted.append fun node member => by
    obtain rfl := List.mem_singleton.mp member
    exact denyQuietly_muted switch id operation

theorem posture_muted : Agree Eq Muted (posture.node.resolve s posture.id).result
    (posture.node.resolve t posture.id).result :=
  Node.guarded_agree rfl (denyQuietly_row_muted switch _ _) (.ok .nil)

theorem extraDenies_muted : Agree Eq Muted (extraDenies.node.resolve s extraDenies.id).result
    (extraDenies.node.resolve t extraDenies.id).result := by
  obtain ⟨rows, body, silent⟩ := extraDenies_eq
  refine Node.guarded_agree rfl ?_ (.ok .nil)
  rw [body]
  refine Node.resolveList_agree_of_append Muted.nil Muted.append ?_
  rw [List.forall_mem_map]
  intro row member
  exact Node.guarded_agree (Guard.evaluate_eq_of_fresh switch.agree (silent row member))
    (denyQuietly_row_muted switch _ _) (.ok .nil)

theorem debugLogging_outcomes :
    debugLogging.outcome s = .ok none ∧ debugLogging.outcome t = .ok (some [debugDeny]) := by
  have off : debugLogging.guard.evaluate s = .ok false := Guard.evaluate_isTrue_eq_ok.mpr switch.off
  have on : debugLogging.guard.evaluate t = .ok true := Guard.evaluate_isTrue_eq_ok.mpr switch.on
  rw [Fragment.outcome_eq, Fragment.outcome_eq, off, on]
  exact ⟨rfl, rfl⟩

theorem paired_of_switch : library.Paired s t where
  fragments := by
    have row : library.fragments = [posture, extraDenies, debugLogging] ++ permissions := rfl
    rw [row, List.forall_mem_append]
    refine ⟨?_, fun f member => .of_eq <|
      Fragment.outcome_eq_of_fresh switch.agree (permissions_silent f member)⟩
    obtain ⟨without, within⟩ := debugLogging_outcomes switch
    simp only [List.mem_cons, List.not_mem_nil, or_false, forall_eq_or_imp, forall_eq, without,
      within]
    exact ⟨Fragment.endAlike_of_node (posture_muted switch),
      Fragment.endAlike_of_node (extraDenies_muted switch), .ok trivial⟩
  posture := by
    have muted := Fragment.contribution_of_node (posture_muted switch) fun _ => .nil
    have opening : Statement.isDenyDefault ∘ unmodified = Statement.isDenyDefault := rfl
    have contributed : library.posture.contribution t = (library.posture.contribution s).map
      unmodified := muted.loud
    rw [Library.postureFault, Library.postureFault, contributed, List.head?_map, Option.map_map,
      opening]
  aliases a member := Guard.evaluate_eq_of_fresh switch.agree (aliases_silent a member)

theorem denials_muted : Muted (library.granted s [posture, extraDenies])
    (library.granted t [posture, extraDenies]) := by
  have first := Fragment.contribution_of_node (posture_muted switch) fun _ => .nil
  have later := Fragment.contribution_of_node (extraDenies_muted switch) fun _ => .nil
  rw [Library.granted_eq_map, Library.granted_eq_map, ← (paired_of_switch switch).renames_eq]
  refine Muted.rename ?_ _
  simpa using first.append later

theorem debugLogging_granted :
    library.granted s [debugLogging] = [] ∧ library.granted t [debugLogging] = [debugDeny] := by
  obtain ⟨without, within⟩ := debugLogging_outcomes switch
  have named : debugDeny.rename (library.renames t) = debugDeny := by
    rcases renames_cases t with renames | renames <;> rw [renames] <;> rfl
  simp [Library.granted_eq_map, Fragment.contribution, without, within, named]

theorem permitting_eq :
    library.granted t (permitting tier roles) = library.granted s (permitting tier roles) :=
  ((paired_of_switch switch).granted_eq switch.agree fun f member =>
    permissions_silent f (mem_permissions member)).symm

theorem logged_assembled (resolves : library.Resolves s tier roles) :
    Logged (library.assembled s tier roles) (library.assembled t tier roles) where
  statements := by
    obtain ⟨without, within⟩ := debugLogging_granted switch
    have muted := denials_muted switch
    have permitted := granted_permitting resolves
    have plain : (library.granted s (permitting tier roles)).map unmodified =
        library.granted s (permitting tier roles) :=
      (List.map_congr_left fun a member => unmodified_eq_self (permitted a member).2).trans
        (List.map_id _)
    refine ⟨library.granted s [posture, extraDenies], library.granted s (permitting tier roles), ?_,
      muted.quiet, fun a member => (permitted a member).1, ?_, ?_⟩
    · obtain ⟨on, first⟩ := granted_posture resolves
      rw [← List.singleton_append (x := posture), Library.granted_append, first]
      exact List.cons_ne_nil _ _
    · rw [statements_eq_layers, without, List.append_nil]
    · rw [statements_eq_layers, within, muted.loud, plain, permitting_eq switch, List.append_assoc,
        List.singleton_append]
  tier := rfl
  roles := rfl
  library := rfl
  fragmentIds := by
    have front (store : Store) : Fragment.includedIds store [posture, extraDenies] =
      [posture.id, extraDenies.id] := rfl
    have off : debugLogging.guard.holds s = false := Guard.holds_isTrue switch.off
    have on : debugLogging.guard.holds t = true := Guard.holds_isTrue switch.on
    have back : Fragment.includedIds s (permitting tier roles) =
        Fragment.includedIds t (permitting tier roles) :=
      Fragment.includedIds_eq_of_fresh switch.agree fun f member =>
        permissions_silent f (mem_permissions member)
    refine ⟨[posture.id, extraDenies.id], Fragment.includedIds s (permitting tier roles), ?_, ?_⟩
    · rw [fragmentIds_eq_layers, front]
      simp [Fragment.includedIds, off]
    · rw [fragmentIds_eq_layers, front, back]
      simp [Fragment.includedIds, on]

end Switched

/-- A log changes nothing that a content profile denies or permits. With the log on or off,
either there is one and the same fault, or there are two documents that differ in the log
alone. -/
theorem compose_logged (switch : Store.SwitchOn shouldLog s t) (requested : Value)
    (roles : List String) : Agree Eq Logged (library.compose s requested roles).result
      (library.compose t requested roles).result :=
  (paired_of_switch switch).compose_agree fun _ resolves _ => logged_assembled switch resolves

def loggingStore : Store := suppliedStore.assign shouldLog (some (.flag true))

theorem compose_logged_supplied : Store.SwitchOn shouldLog suppliedStore loggingStore ∧
    ∃ d e : Document, (library.compose suppliedStore (.int 2) ["file"]).result = .ok d ∧
      (library.compose loggingStore (.int 2) ["file"]).result = .ok e ∧ Logged d e := by
  have switch : Store.SwitchOn shouldLog suppliedStore loggingStore :=
    ⟨Store.agreeApartFrom_assign _ _ _, rfl, rfl⟩
  obtain ⟨d, quiet⟩ : ∃ d, (library.compose suppliedStore (.int 2) ["file"]).result = .ok d :=
    exists_document suppliedStore_built (by simp) rfl
  obtain ⟨e, loud, logged⟩ := (compose_logged switch (.int 2) ["file"]).exists_ok quiet
  exact ⟨switch, d, e, quiet, loud, logged⟩

end SandboxProfile.Content
