import SandboxProfile.Proofs.Form.Policy

/-! Policies back from their forms. The statements of a finished document can be
read off its text, so no two lists of statements print alike. -/
namespace SandboxProfile

namespace Form

/-- The longest row of forms that all stand for something, and what follows it. -/
def leading (f : Form → Option α) : List Form → List α × List Form
  | [] => ([], [])
  | form :: rest =>
    match f form with
    | none => ([], form :: rest)
    | some a => ((leading f rest).map (a :: ·) id)

/-- What stands behind a row of forms is left over if it does not continue the row. -/
theorem leading_append {f : Form → Option α} {form : α → Form} {items : List α}
    (h : ∀ a ∈ items, f (form a) = some a) {rest : List Form}
    (stop : ∀ next ∈ rest.head?, f next = none) :
    leading f (items.map form ++ rest) = (items, rest) := by
  induction items with
  | nil =>
    cases rest with
    | nil => rfl
    | cons next rest => simp [leading, stop next rfl]
  | cons a items ih =>
    have others := ih fun b hb => h b (List.mem_cons_of_mem _ hb)
    rw [List.map_cons, List.cons_append, leading, h a List.mem_cons_self, others]
    rfl

theorem leading_map {f : Form → Option α} {form : α → Form} {items : List α}
    (h : ∀ a ∈ items, f (form a) = some a) : leading f (items.map form) = (items, []) := by
  have row : leading f (items.map form ++ []) = (items, []) := leading_append h (by simp)
  rwa [List.append_nil] at row

end Form
open Form

namespace Arg

def ofForm? : Form → Option Arg
  | .text s => some (.text s)
  | .atom name => some (.symbol name)
  | .regex pattern => some (.regex (.fixed pattern))
  | .mask value => some (.mode value)
  | .list _ => none

theorem ofForm?_toForm {a : Arg} (plain : a.isPlain = true) : ofForm? a.toForm = some a := by
  unfold isPlain at plain
  split at plain
  case h_5 => contradiction
  all_goals rfl

end Arg

namespace Filter

mutual
def ofForm? : Form → Option Filter
  | .list (.atom word :: rest) =>
    if word = "require-all" then (ofForms? rest).map .all
    else if word = "require-any" then (ofForms? rest).map .any
    else if word = "require-not" then
      match ofForms? rest with
      | some [f] => some (.not f)
      | _ => none
    else
      match FilterKind.ofName? word, leading Arg.ofForm? rest with
      | some kind, (first :: others, []) => some (.only kind first others)
      | _, _ => none
  | _ => none

def ofForms? : List Form → Option (List Filter)
  | [] => some []
  | form :: rest => do
    let f ← ofForm? form
    let others ← ofForms? rest
    pure (f :: others)
end

/-- No kind of filter is spelled like a combination of filters. -/
theorem kind_name_ne (kind : FilterKind) : kind.name ≠ "require-all" ∧
    kind.name ≠ "require-any" ∧ kind.name ≠ "require-not" := by
  cases kind <;> decide

mutual
theorem ofForm?_toForm : ∀ f : Filter, f.every Arg.isPlain = true → ofForm? f.toForm = some f
  | .only kind first others, plain => by
    simp only [every, Bool.and_eq_true, List.all_eq_true] at plain
    have args : ∀ a ∈ first :: others, Arg.ofForm? a.toForm = some a := by
      intro a ha
      rcases List.mem_cons.mp ha with rfl | ha
      · exact Arg.ofForm?_toForm plain.1
      · exact Arg.ofForm?_toForm (plain.2 a ha)
    obtain ⟨notAll, notAny, notNot⟩ := kind_name_ne kind
    rw [toForm, ofForm?, if_neg notAll, if_neg notAny, if_neg notNot, FilterKind.ofName?_name,
      leading_map args]
  | .all filters, plain => by
    rw [toForm, ofForm?, if_pos rfl, ofForms?_toForms filters plain]
    rfl
  | .any filters, plain => by
    rw [toForm, ofForm?, if_neg (by decide), if_pos rfl, ofForms?_toForms filters plain]
    rfl
  | .not filter, plain => by
    rw [toForm, ofForm?, if_neg (by decide), if_neg (by decide), if_pos rfl, ofForms?, ofForms?,
      ofForm?_toForm filter plain]
    rfl
  | .stray value, plain => by contradiction

theorem ofForms?_toForms : ∀ filters : List Filter, everyList Arg.isPlain filters = true →
    ofForms? (toForms filters) = some filters
  | [], _ => rfl
  | f :: rest, plain => by
    simp only [everyList, Bool.and_eq_true] at plain
    rw [toForms, ofForms?, ofForm?_toForm f plain.1, ofForms?_toForms rest plain.2]
    rfl
end

end Filter

namespace Statement

def operation? : Form → Option String
  | .atom name => some name
  | _ => none

def modifier? : Form → Option String
  | .list [.atom "with", .atom name] => some name
  | _ => none

/-- A statement without a scope: its action, then all operations, all filters and
all modifiers. -/
def ofBareForm? : Form → Option Statement
  | .list (.atom word :: items) => do
    let action ← (Action.ofName word).toOption
    let (operations, items) := leading operation? items
    let (filters, items) := leading Filter.ofForm? items
    match leading modifier? items with
    | (modifiers, []) => some ⟨action, operations, filters, modifiers, none⟩
    | _ => none
  | _ => none

def ofForm? : Form → Option Statement
  | .list [.atom "with-filter", scope, body] => do
    let f ← Filter.ofForm? scope
    let s ← ofBareForm? body
    pure { s with scope := some f }
  | form => ofBareForm? form

theorem operation?_filter (f : Filter) : operation? f.toForm = none := by
  cases f <;> rfl

theorem ofForm?_modifierForm (m : String) : Filter.ofForm? (modifierForm m) = none := by
  have unknown : FilterKind.ofName? "with" = none := by decide
  rw [modifierForm, Filter.ofForm?, if_neg (by decide), if_neg (by decide), if_neg (by decide),
    unknown]

/-- Operations, filters and modifiers share one row of forms, and each kind begins
where no form of the kind before it can stand. -/
theorem ofBareForm?_bareForm {s : Statement} (plain : s.isPlain = true) :
    ofBareForm? s.bareForm = some { s with scope := none } := by
  simp only [isPlain, Bool.and_eq_true, List.all_eq_true] at plain
  obtain ⟨⟨-, filters⟩, -⟩ := plain
  have operations : leading operation? s.itemForms =
      (s.operations, s.filters.map Filter.toForm ++ s.modifiers.map modifierForm) := by
    rw [itemForms, List.append_assoc]
    refine leading_append (fun name _ => (rfl : operation? (.atom name) = some name)) ?_
    intro next first
    have member : next ∈ s.filters.map Filter.toForm ++ s.modifiers.map modifierForm :=
      List.mem_of_mem_head? first
    rcases List.mem_append.mp member with member | member
    · obtain ⟨f, -, rfl⟩ := List.mem_map.mp member
      exact operation?_filter f
    · obtain ⟨m, -, rfl⟩ := List.mem_map.mp member
      rfl
  have filterRow : leading Filter.ofForm?
      (s.filters.map Filter.toForm ++ s.modifiers.map modifierForm) =
      (s.filters, s.modifiers.map modifierForm) := by
    apply leading_append fun f member => Filter.ofForm?_toForm f (filters f member)
    intro next first
    obtain ⟨m, -, rfl⟩ := List.mem_map.mp (List.mem_of_mem_head? first)
    exact ofForm?_modifierForm m
  have modifiers : leading modifier? (s.modifiers.map modifierForm) = (s.modifiers, []) :=
    leading_map fun _ _ => rfl
  have action : (Action.ofName s.action.name).toOption = some s.action := by
    cases s.action <;> decide
  simp only [bareForm, ofBareForm?, action, operations, filterRow, modifiers]
  rfl

theorem ofForm?_toForm {s : Statement} (plain : s.isPlain = true) :
    ofForm? s.toForm = some s := by
  have body := ofBareForm?_bareForm plain
  unfold toForm
  cases scope : s.scope with
  | none =>
    have unscoped : ofForm? s.bareForm = ofBareForm? s.bareForm := by
      unfold ofForm?
      split
      · next same =>
        have word : s.action.name = "with-filter" := by
          rw [bareForm, Form.list.injEq, List.cons.injEq, Form.atom.injEq] at same
          exact same.1
        cases action : s.action <;> rw [action] at word <;> contradiction
      · rfl
    rw [unscoped, body, ← scope]
  | some f =>
    have scopePlain : f.every Arg.isPlain = true := by
      simp only [isPlain, scope, Option.all_some, Bool.and_eq_true] at plain
      exact plain.2
    simp only [ofForm?, body, Filter.ofForm?_toForm f scopePlain, Option.bind_eq_bind,
      Option.bind_some, Option.pure_def]
    rw [← scope]

end Statement

namespace Document

/-- The statements that the forms of a document stand for. -/
def ofForms? : List Form → Option (List Statement)
  | .list [.atom "version", .atom "1"] :: forms =>
    match leading Statement.ofForm? forms with
    | (statements, []) => some statements
    | _ => none
  | _ => none

/-- The statements that a text stands for, if it is the text of a document. -/
def read (text : String) : Option (List Statement) := (Form.read text).bind ofForms?

theorem ofForms?_toForms {d : Document} (plain : d.isPlain = true) :
    ofForms? d.toForms = some d.statements := by
  have row := leading_map fun s member =>
    Statement.ofForm?_toForm (List.all_eq_true.mp plain s member)
  simp only [toForms, versionForm, ofForms?, row]

/-- The text of a finished document gives its statements back, so another finished
document with that text has the same statements. -/
theorem emit_lossless {d : Document} (plain : d.isPlain = true) :
    ∃ text, d.emit = .ok text ∧
      Form.read text = some (versionForm :: d.statements.map Statement.toForm) ∧
      Document.read text = some d.statements ∧
      ∀ e : Document, e.isPlain = true → e.emit = .ok text → e.statements = d.statements := by
  have reads {e : Document} (finished : e.isPlain = true) :
      ∃ text, e.emit = .ok text ∧ Form.read text = some e.toForms ∧
        Document.read text = some e.statements := by
    obtain ⟨text, emitted, forms⟩ := read_emit finished
    exact ⟨text, emitted, forms, by rw [read, forms, Option.bind_some, ofForms?_toForms finished]⟩
  obtain ⟨text, emitted, forms, statements⟩ := reads plain
  refine ⟨text, emitted, forms, statements, fun e finished same => ?_⟩
  obtain ⟨other, emittedOther, -, statementsOther⟩ := reads finished
  obtain rfl : text = other := Except.ok.inj (same.symm.trans emittedOther)
  exact Option.some.inj (statementsOther.symm.trans statements)

/-- Nested filters, a scope and every layout, with the characters of the syntax inside texts. -/
def intricate : Document where
  statements :=
    [⟨.deny, ["default"], [], ["no-log"], none⟩,
      ⟨.allow, [], [], [], none⟩,
      ⟨.allow, ["file-read*", "file-ioctl"],
        [.all [.not (.only .literal (.text "/a \"b\" (\\\n)") []), .any []],
          .only .regex (.regex (.fixed "^/a\\.(b|c)\\")) [.regex (.fixed "")],
          .only .fileMode (.mode 4) [.mode (-1), .mode 8191]],
        ["no-log", "report"], some (.only .target (.symbol "self") [.text ""])⟩]
  tier := none
  roles := []
  fragmentIds := []
  library := ""

theorem emit_lossless_intricate : intricate.isPlain = true ∧
    ∃ text, intricate.emit = .ok text ∧
      Form.read text = some (versionForm :: intricate.statements.map Statement.toForm) ∧
      Document.read text = some intricate.statements ∧
      ∀ e : Document, e.isPlain = true → e.emit = .ok text →
        e.statements = intricate.statements :=
  have plain : intricate.isPlain = true := by decide
  ⟨plain, emit_lossless plain⟩

end Document
end SandboxProfile
