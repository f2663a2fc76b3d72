import SandboxProfile.Policy.Document
import SandboxProfile.Proofs.Form.Token
import Mathlib.Data.List.Forall2

/-! The forms of a policy. An argument, a filter, a statement without templates
prints as one form, whichever of its layouts is chosen. -/
namespace SandboxProfile

/-- Whether an argument is finished text that reads as one token. -/
def Arg.isPlain : Arg → Bool
  | .text _ => true
  | .symbol name => Form.isPlainName name
  | .regex (.fixed pattern) => !hasDoubleQuote pattern
  | .mode _ => true
  | _ => false

/-- The form of a finished argument. -/
def Arg.toForm : Arg → Form
  | .text s => .text s
  | .symbol name => .atom name
  | .regex (.fixed pattern) => .regex pattern
  | .mode mask => .mask mask
  | _ => .list []

namespace Filter

mutual
/-- Whether a filter is well formed and all its arguments are of a kind. -/
def every (p : Arg → Bool) : Filter → Bool
  | .only _ first others => p first && others.all p
  | .all filters => everyList p filters
  | .any filters => everyList p filters
  | .not filter => every p filter
  | .stray _ => false

def everyList (p : Arg → Bool) : List Filter → Bool
  | [] => true
  | f :: rest => every p f && everyList p rest
end

mutual
def toForm : Filter → Form
  | .only kind first others => .list (.atom kind.name :: (first :: others).map Arg.toForm)
  | .all filters => .list (.atom "require-all" :: toForms filters)
  | .any filters => .list (.atom "require-any" :: toForms filters)
  | .not filter => .list [.atom "require-not", toForm filter]
  | .stray _ => .list []

def toForms : List Filter → List Form
  | [] => []
  | f :: rest => toForm f :: toForms rest
end

theorem everyList_iff {p : Arg → Bool} {filters : List Filter} :
    everyList p filters = true ↔ ∀ f ∈ filters, f.every p = true := by
  induction filters with
  | nil => simp [everyList]
  | cons f rest ih => simp [everyList, ih]

theorem toForms_eq_map (filters : List Filter) : toForms filters = filters.map toForm := by
  induction filters with
  | nil => rfl
  | cons f rest ih => rw [toForms, ih, List.map_cons]

end Filter

namespace Statement

/-- Whether a statement is free of templates and all its names read as one atom. -/
def isPlain (s : Statement) : Bool :=
  s.operations.all Form.isPlainName && s.modifiers.all Form.isPlainName &&
    s.filters.all (·.every Arg.isPlain) && s.scope.all (·.every Arg.isPlain)

def modifierForm (name : String) : Form := .list [.atom "with", .atom name]

/-- The items of a statement behind its action. -/
def itemForms (s : Statement) : List Form :=
  s.operations.map .atom ++ s.filters.map Filter.toForm ++ s.modifiers.map modifierForm

def bareForm (s : Statement) : Form := .list (.atom s.action.name :: s.itemForms)

def toForm (s : Statement) : Form :=
  match s.scope with
  | none => s.bareForm
  | some f => .list [.atom "with-filter", f.toForm, s.bareForm]

end Statement

namespace Document

def isPlain (d : Document) : Bool := d.statements.all Statement.isPlain

def versionForm : Form := .list [.atom "version", .atom "1"]

def toForms (d : Document) : List Form := versionForm :: d.statements.map Statement.toForm

end Document

namespace Form

theorem isPlainName_kind (kind : FilterKind) : isPlainName kind.name = true := by
  cases kind <;> rfl

theorem isPlainName_action (action : Action) : isPlainName action.name = true := by
  cases action <;> rfl

/-- Texts that spell one form each. -/
def Spelled (texts : List String) (forms : List Form) : Prop :=
  List.Forall₂ (fun s f => Spells s.toList [f]) texts forms

/-- The two separators of a printed policy. -/
def IsBlank (sep : String) : Prop := sep = " " ∨ sep = "\n"

theorem Spells.append {s t sep : String} {forms others : List Form} (h : Spells s.toList forms)
    (k : Spells t.toList others) (blank : IsBlank sep) :
    Spells (s ++ sep ++ t).toList (forms ++ others) := by
  rw [String.toList_append, String.toList_append, List.append_assoc]
  rcases blank with rfl | rfl
  · exact h.append_blank k (.inl rfl)
  · exact h.append_blank k (.inr rfl)

theorem Spells.bracket {s : String} {forms : List Form} (h : Spells s.toList forms) :
    Spells ("(" ++ s ++ ")").toList [.list forms] := by
  rw [String.toList_append, String.toList_append]
  exact h.parenthesize

/-- A list that begins with a word. -/
theorem Spells.headed {s : String} {forms : List Form} (h : Spells s.toList forms)
    (word : String) (plain : isPlainName word = true) :
    Spells ("(" ++ (word ++ " " ++ s) ++ ")").toList [.list (.atom word :: forms)] :=
  ((spells_atom plain).append h (.inl rfl)).bracket

theorem Spells.indent {s : String} {forms : List Form} (h : Spells s.toList forms) (depth : Nat) :
    Spells (Statement.indent depth ++ s).toList forms := by
  rw [String.toList_append, Statement.indent, String.toList_ofList]
  induction 2 * depth with
  | zero => exact h
  | succ n ih => exact spells_nil.append_blank ih (.inl rfl)

namespace Spelled
variable {texts more : List String} {forms others : List Form}

theorem joinWith {sep : String} (h : Spelled texts forms) (blank : IsBlank sep) :
    Spells (Text.joinWith sep texts).toList forms := by
  induction h with
  | nil => exact spells_nil
  | @cons s f texts forms first rest ih =>
    cases rest with
    | nil => exact first
    | cons second rest => exact first.append ih blank

theorem append (h : Spelled texts forms) (k : Spelled more others) :
    Spelled (texts ++ more) (forms ++ others) :=
  List.rel_append h k

theorem indent (h : Spelled texts forms) (depth : Nat) :
    Spelled (texts.map fun s => Statement.indent depth ++ s) forms := by
  rw [Spelled, List.forall₂_map_left_iff]
  exact List.Forall₂.imp (fun _ _ spelled => spelled.indent depth) h

theorem names {names : List String} (plain : names.all isPlainName = true) :
    Spelled names (names.map .atom) := by
  rw [Spelled, List.forall₂_map_right_iff, List.forall₂_same]
  exact fun name member => spells_atom (List.all_eq_true.mp plain name member)

/-- Printing one by one spells one by one. -/
theorem mapM {ε α : Type} {print : α → Except ε String} {form : α → Form} {items : List α}
    (h : ∀ a ∈ items, ∃ s, print a = .ok s ∧ Spells s.toList [form a]) :
    ∃ texts, items.mapM print = .ok texts ∧ Spelled texts (items.map form) := by
  induction items with
  | nil => exact ⟨[], rfl, .nil⟩
  | cons a rest ih =>
    obtain ⟨s, printed, spelled⟩ := h a List.mem_cons_self
    obtain ⟨texts, others, row⟩ := ih fun b hb => h b (List.mem_cons_of_mem _ hb)
    refine ⟨s :: texts, ?_, .cons spelled row⟩
    rw [List.mapM_cons, printed, others]
    rfl

end Spelled
end Form
open Form

theorem Arg.spells_render {a : Arg} (plain : a.isPlain = true) :
    ∃ s, a.render = .ok s ∧ Spells s.toList [a.toForm] := by
  unfold Arg.isPlain at plain
  split at plain
  · next s => exact ⟨_, rfl, spells_quote s⟩
  · next name => exact ⟨_, rfl, spells_atom plain⟩
  · next pattern => exact ⟨_, rfl, spells_regex (by simpa using plain)⟩
  · next mask => exact ⟨_, rfl, spells_octal mask⟩
  · contradiction

namespace Filter

/-- A list of printed forms behind a word. -/
private theorem spells_rendered_list {word : String} {texts : List String} {forms : List Form}
    (plain : isPlainName word = true) (row : Spelled texts forms) :
    Spells ("(" ++ Text.joinWith " " (word :: texts) ++ ")").toList
      [.list (.atom word :: forms)] :=
  (Spelled.joinWith (.cons (spells_atom plain) row) (.inl rfl)).bracket

mutual
theorem spells_render : ∀ f : Filter, f.every Arg.isPlain = true →
    ∃ s, f.render = .ok s ∧ Spells s.toList [f.toForm]
  | .only kind first others, plain => by
    simp only [every, Bool.and_eq_true, List.all_eq_true] at plain
    have args : ∀ a ∈ first :: others, ∃ s, a.render = .ok s ∧ Spells s.toList [a.toForm] := by
      intro a ha
      rcases List.mem_cons.mp ha with rfl | ha
      · exact Arg.spells_render plain.1
      · exact Arg.spells_render (plain.2 a ha)
    obtain ⟨texts, printed, row⟩ := Spelled.mapM args
    refine ⟨_, ?_, spells_rendered_list (isPlainName_kind kind) row⟩
    rw [render, printed]
    rfl
  | .all filters, plain => by
    obtain ⟨texts, printed, row⟩ := spells_renderList filters plain
    refine ⟨_, ?_, spells_rendered_list rfl row⟩
    rw [render, printed]
    rfl
  | .any filters, plain => by
    obtain ⟨texts, printed, row⟩ := spells_renderList filters plain
    refine ⟨_, ?_, spells_rendered_list rfl row⟩
    rw [render, printed]
    rfl
  | .not filter, plain => by
    obtain ⟨s, printed, spelled⟩ := spells_render filter plain
    refine ⟨"(" ++ ("require-not" ++ " " ++ s) ++ ")", ?_, spelled.headed _ rfl⟩
    rw [render, printed, ← String.append_assoc]
    rfl
  | .stray value, plain => by contradiction

theorem spells_renderList : ∀ filters : List Filter, everyList Arg.isPlain filters = true →
    ∃ texts, renderList filters = .ok texts ∧ Spelled texts (toForms filters)
  | [], _ => ⟨[], rfl, .nil⟩
  | f :: rest, plain => by
    simp only [everyList, Bool.and_eq_true] at plain
    obtain ⟨s, printed, spelled⟩ := spells_render f plain.1
    obtain ⟨texts, others, row⟩ := spells_renderList rest plain.2
    refine ⟨s :: texts, ?_, .cons spelled row⟩
    rw [renderList, printed, others]
    rfl
end

end Filter

namespace Statement

theorem spells_modifiers {modifiers : List String} (plain : modifiers.all isPlainName = true) :
    Spelled (modifiers.map fun m => "(with " ++ m ++ ")") (modifiers.map modifierForm) := by
  rw [Spelled, List.forall₂_map_left_iff, List.forall₂_map_right_iff, List.forall₂_same]
  intro m member
  have spelled := (spells_atom (List.all_eq_true.mp plain m member)).headed "with" rfl
  rwa [← String.append_assoc] at spelled

/-- Without items, with one, and with more: in each layout the items follow the head. -/
theorem spells_renderBare {s : Statement} (plain : s.isPlain = true) (depth : Nat) :
    ∃ t, s.renderBare depth = .ok t ∧ Spells t.toList [s.bareForm] := by
  simp only [isPlain, Bool.and_eq_true] at plain
  obtain ⟨⟨⟨operations, modifiers⟩, filters⟩, -⟩ := plain
  obtain ⟨printed, rendered, filterRow⟩ :=
    Filter.spells_renderList s.filters (Filter.everyList_iff.mpr (List.all_eq_true.mp filters))
  rw [Filter.toForms_eq_map] at filterRow
  have items := filterRow.append (spells_modifiers modifiers)
  have head : Spells (Text.joinWith " " (s.action.name :: s.operations)).toList
      (.atom s.action.name :: s.operations.map .atom) :=
    Spelled.joinWith (.cons (spells_atom (isPlainName_action s.action)) (Spelled.names operations))
      (.inl rfl)
  have forms : s.bareForm = .list ((.atom s.action.name :: s.operations.map .atom) ++
      (s.filters.map Filter.toForm ++ s.modifiers.map modifierForm)) := by
    simp [bareForm, itemForms]
  rw [forms, renderBare, rendered]
  generalize s.filters.map Filter.toForm ++ s.modifiers.map modifierForm = itemForms at items
  simp only [bind, Except.bind]
  generalize printed ++ s.modifiers.map (fun m => "(with " ++ m ++ ")") = texts at items
  cases items with
  | nil =>
    refine ⟨_, rfl, ?_⟩
    have whole := head.bracket.indent depth
    simpa [String.append_assoc] using whole
  | @cons item form texts forms first rest =>
    cases rest with
    | nil =>
      refine ⟨_, rfl, ?_⟩
      have whole := (head.append first (.inl rfl)).bracket.indent depth
      simpa only [String.append_assoc] using whole
    | @cons next nextForm texts forms second rest =>
      refine ⟨_, rfl, ?_⟩
      have lines := Spelled.indent (.cons first (.cons second rest)) (depth + 1)
      have whole := (head.append (lines.joinWith (.inr rfl)) (.inr rfl)).bracket.indent depth
      simpa only [String.append_assoc] using whole

/-- A scope wraps the statement into one more form. -/
theorem spells_render {s : Statement} (plain : s.isPlain = true) (depth : Nat) :
    ∃ t, s.render depth = .ok t ∧ Spells t.toList [s.toForm] := by
  unfold render toForm
  cases scope : s.scope with
  | none => exact spells_renderBare plain depth
  | some f =>
    have scopePlain : f.every Arg.isPlain = true := by
      simp only [isPlain, scope, Option.all_some, Bool.and_eq_true] at plain
      exact plain.2
    obtain ⟨inner, printed, body⟩ := spells_renderBare plain (depth + 1)
    obtain ⟨t, rendered, filter⟩ := f.spells_render scopePlain
    have whole := ((filter.append body (.inr rfl)).headed "with-filter" rfl).indent depth
    refine ⟨indent depth ++ "(with-filter " ++ t ++ "\n" ++ inner ++ ")", ?_, ?_⟩
    · simp only [printed, rendered]
      rfl
    · have word : "(" ++ ("with-filter" ++ " ") = "(with-filter " := rfl
      simpa only [String.append_assoc, ← word, List.singleton_append] using whole

end Statement

namespace Document

/-- A finished document prints, and its text reads as the version and one form for
each statement. -/
theorem read_emit {d : Document} (plain : d.isPlain = true) :
    ∃ text, d.emit = .ok text ∧ Form.read text = some d.toForms := by
  have statements : ∀ s ∈ d.statements, ∃ t, s.render 0 = .ok t ∧ Spells t.toList [s.toForm] :=
    fun s member => Statement.spells_render (List.all_eq_true.mp plain s member) 0
  obtain ⟨lines, printed, row⟩ := Spelled.mapM statements
  have version : Spells "(version 1)".toList [versionForm] :=
    (spells_atom (s := "1") rfl).headed "version" rfl
  have text := Spelled.joinWith (.cons version row) (.inr rfl)
  refine ⟨Text.joinWith "\n" ("(version 1)" :: lines) ++ "\n", ?_, ?_⟩
  · rw [emit, renderStatements, printed]
    rfl
  · apply Spells.read
    have ended := text.append (t := "") spells_nil (.inr rfl)
    simpa [toForms] using ended

end Document
end SandboxProfile
