import SandboxProfile.Proofs.Policy.Finished
import SandboxProfile.Proofs.Text.Integer

/-! Demands. Whatever a statement needs before it is free of templates stands in it in one
textual order, at any depth of its filters. Instantiation is one scan of that row: the leftmost
demand that is not met decides alone, and if all are met every template is written out. -/
namespace SandboxProfile
open Text (digitCount digitLimit)

/-- A reference, or a value that stands where a part of a policy should. -/
inductive Demand where
  | ref (r : Ref)
  /-- Nothing in the place of an argument. -/
  | argument
  | filter (value : Value)
  deriving Repr, BEq

/-- What ends an instantiation before there is a result. -/
inductive Hindrance where
  | fault (f : PolicyFault)
  | skip
  deriving Repr, BEq

def Hindrance.outcome {α : Type} : Hindrance → Except PolicyFault (Option α)
  | .fault f => .error f
  | .skip => .ok none

/-- What is wrong with a reference. Its parameter has to be bound, and set to something that is
neither a truth value nor an integer with too many digits. -/
def Ref.hindrance? (store : Store) (r : Ref) : Option Hindrance :=
  match (store.find? r.param).map Parameter.setting with
  | none => some (.fault (.parameter (.notBound r.param)))
  | some none => some (if r.required then .fault (.requiredUnset r.param) else .skip)
  | some (some (.flag _)) => some (.fault (.parameter (.flagInTemplate r.param)))
  | some (some (.number i)) =>
    if digitLimit < digitCount i then some (.fault (.parameter .unwritable)) else none
  | some (some (.text _)) => none

/-- Whether the parameter of a reference is bound to something that is no truth value. -/
def Ref.IsSupplied (store : Store) (r : Ref) : Prop :=
  ∃ setting, store.setting r.param = .ok (some setting) ∧ ∀ on, setting ≠ .flag on

/-- What stands in the place of a reference when it is written out. -/
def Ref.written (store : Store) (r : Ref) : String :=
  let value := match (store.find? r.param).bind Parameter.setting with
    | some (.number i) => toString i
    | some (.text s) => s
    | _ => ""
  if r.regexQuote then Template.regexQuote value else value

def Demand.hindrance? (store : Store) : Demand → Option Hindrance
  | .ref r => r.hindrance? store
  | .argument => some .skip
  | .filter value => some (.fault (.notFilter value))

namespace Template

def demands (parts : Template) : List Demand := parts.refs.map .ref

/-- The fixed text and the values of the references, one behind the other. -/
def written (store : Store) (parts : Template) : String :=
  String.join (parts.map fun
    | .fixed text => text
    | .ref r => r.written store)

end Template

namespace Arg

def demands : Arg → List Demand
  | .template parts => parts.demands
  | .regex (.template parts) => parts.demands
  | .stray .null => [.argument]
  | _ => []

def written (store : Store) : Arg → Arg
  | .template parts => .text (parts.written store)
  | .regex (.template parts) => .regex (.fixed (parts.written store))
  | arg => arg

end Arg

namespace Filter

mutual
def demands : Filter → List Demand
  | .only _ first others => (first :: others).flatMap Arg.demands
  | .all filters => demandsOf filters
  | .any filters => demandsOf filters
  | .not filter => demands filter
  | .stray value => [.filter value]

def demandsOf : List Filter → List Demand
  | [] => []
  | f :: rest => demands f ++ demandsOf rest
end

mutual
/-- The filter with another argument in the place of each. -/
def mapArgs (f : Arg → Arg) : Filter → Filter
  | .only kind first others => .only kind (f first) (others.map f)
  | .all filters => .all (mapArgsOf f filters)
  | .any filters => .any (mapArgsOf f filters)
  | .not filter => .not (mapArgs f filter)
  | .stray value => .stray value

def mapArgsOf (f : Arg → Arg) : List Filter → List Filter
  | [] => []
  | g :: rest => mapArgs f g :: mapArgsOf f rest
end

end Filter

namespace Statement

/-- The demands of a statement: those of its filters from left to right, then of its scope. -/
def demands (a : Statement) : List Demand :=
  Filter.demandsOf a.filters ++ a.scope.toList.flatMap Filter.demands

/-- The statement with every template written out and everything else as it is. -/
def written (store : Store) (a : Statement) : Statement :=
  { a with
    filters := Filter.mapArgsOf (Arg.written store) a.filters
    scope := a.scope.map (Filter.mapArgs (Arg.written store)) }

end Statement

/-! ### The scan -/

/-- The result that there is if no demand of a row stands in its way. -/
def scan {α : Type} (store : Store) (row : List Demand) (a : α) : Except PolicyFault (Option α) :=
  match row.findSome? (Demand.hindrance? store) with
  | some hindrance => hindrance.outcome
  | none => .ok (some a)

variable {α β : Type} {store : Store} {row more : List Demand}

theorem scan_map (f : α → β) (a : α) :
    (scan store row a).map (Option.map f) = scan store row (f a) := by
  unfold scan
  cases row.findSome? (Demand.hindrance? store) with
  | none => rfl
  | some hindrance => cases hindrance <;> rfl

/-- What comes behind a row is looked at only if nothing in the row is in the way. -/
theorem scan_bind {a : α} {b : β} {f : Option α → Except PolicyFault (Option β)}
    (absent : f none = .ok none) (next : f (some a) = scan store more b) :
    (scan store row a >>= f) = scan store (row ++ more) b := by
  unfold scan at next ⊢
  rw [List.findSome?_append]
  cases row.findSome? (Demand.hindrance? store) with
  | none => exact next
  | some hindrance =>
    cases hindrance with
    | fault f => rfl
    | skip => exact absent

theorem Ref.resolve_eq (r : Ref) : r.resolve store = scan store [.ref r] (r.written store) := by
  rw [resolve, Store.setting_eq, scan, List.findSome?_cons, Demand.hindrance?, hindrance?, written]
  cases store.find? r.param with
  | none => rfl
  | some p =>
    obtain ⟨name, kind, setting⟩ := p
    cases setting with
    | none => cases r.required <;> rfl
    | some setting =>
      cases setting with
      | flag on => rfl
      | number i =>
        by_cases long : digitLimit < digitCount i
        · simp only [Option.map_some, long, ↓reduceIte]
          rfl
        · simp only [Option.map_some, long, ↓reduceIte]
          rfl
      | text s => rfl

/-- By induction on the parts: a fixed text demands nothing, and a reference is the first
demand of what is left. -/
theorem Template.render_eq (parts : Template) :
    parts.render store = scan store parts.demands (parts.written store) := by
  induction parts with
  | nil => rfl
  | cons part rest ih =>
    cases part with
    | fixed text =>
      rw [render, ih, scan_map]
      exact congrArg (scan store _) String.join_cons.symm
    | ref r =>
      rw [render, r.resolve_eq]
      refine scan_bind rfl ?_
      dsimp only
      rw [ih, scan_map]
      exact congrArg (scan store _) String.join_cons.symm

theorem Arg.instantiate_eq (arg : Arg) :
    arg.instantiate store = scan store arg.demands (arg.written store) := by
  cases arg with
  | template parts =>
    rw [instantiate, parts.render_eq, scan_map]
    rfl
  | regex pattern =>
    cases pattern with
    | fixed text => rfl
    | template parts =>
      rw [instantiate, parts.render_eq, scan_map]
      rfl
  | stray value => cases value <;> rfl
  | text | symbol | mode => rfl

theorem traverseOption_args_eq (args : List Arg) :
    traverseOption (Arg.instantiate store) args =
      scan store (args.flatMap Arg.demands) (args.map (Arg.written store)) := by
  induction args with
  | nil => rfl
  | cons arg rest ih =>
    rw [traverseOption, arg.instantiate_eq]
    refine scan_bind rfl ?_
    dsimp only
    rw [ih, scan_map]
    rfl

namespace Filter

mutual
/-- By induction on the filter. Under each combinator the rows of its filters stand one behind
the other, so that its scan is theirs. -/
theorem instantiate_eq : ∀ f : Filter,
    f.instantiate store = scan store f.demands (f.mapArgs (Arg.written store))
  | .only kind first others => by
    rw [instantiate, first.instantiate_eq]
    refine scan_bind rfl ?_
    dsimp only
    rw [traverseOption_args_eq, scan_map]
    rfl
  | .all filters => by
    rw [instantiate, instantiateList_eq filters, scan_map]
    rfl
  | .any filters => by
    rw [instantiate, instantiateList_eq filters, scan_map]
    rfl
  | .not filter => by
    rw [instantiate, instantiate_eq filter, scan_map]
    rfl
  | .stray value => rfl

theorem instantiateList_eq : ∀ filters : List Filter,
    instantiateList store filters =
      scan store (demandsOf filters) (mapArgsOf (Arg.written store) filters)
  | [] => rfl
  | f :: rest => by
    rw [instantiateList, instantiate_eq f]
    refine scan_bind rfl ?_
    dsimp only
    rw [instantiateList_eq rest, scan_map]
    rfl
end

end Filter

namespace Statement

theorem instantiateScope_eq (scope : Option Filter) : instantiateScope store scope =
    scan store (scope.toList.flatMap Filter.demands)
      (scope.map (Filter.mapArgs (Arg.written store))) := by
  cases scope with
  | none => rfl
  | some f =>
    rw [instantiateScope, f.instantiate_eq, scan_map, Option.toList_some, List.flatMap_singleton]
    rfl

theorem instantiate_eq (a : Statement) :
    a.instantiate store = scan store a.demands (a.written store) := by
  rw [instantiate, Filter.instantiateList_eq]
  refine scan_bind rfl ?_
  dsimp only
  rw [instantiateScope_eq, scan_map]
  rfl

end Statement

/-! ### Proper statements -/

theorem Arg.eq_ref_of_isProper {arg : Arg} (proper : arg.isProper = true) {demand : Demand}
    (member : demand ∈ arg.demands) : ∃ r, demand = .ref r := by
  have referred (parts : Template) (there : demand ∈ parts.demands) : ∃ r, demand = .ref r := by
    obtain ⟨r, -, rfl⟩ := List.mem_map.mp there
    exact ⟨r, rfl⟩
  cases arg with
  | template parts => exact referred parts member
  | regex pattern =>
    cases pattern with
    | fixed text => contradiction
    | template parts => exact referred parts member
  | stray value => contradiction
  | text | symbol | mode => contradiction

namespace Filter

mutual
/-- What consists of filters and arguments throughout demands nothing but parameters. -/
theorem eq_ref_of_isProper {demand : Demand} : ∀ f : Filter, f.every Arg.isProper = true →
    demand ∈ f.demands → ∃ r, demand = .ref r
  | .only kind first others, proper, member => by
    rw [every, Bool.and_eq_true, List.all_eq_true] at proper
    obtain ⟨arg, listed, inside⟩ := List.mem_flatMap.mp member
    rcases List.mem_cons.mp listed with rfl | later
    · exact Arg.eq_ref_of_isProper proper.1 inside
    · exact Arg.eq_ref_of_isProper (proper.2 arg later) inside
  | .all filters, proper, member => eq_ref_of_areProper filters proper member
  | .any filters, proper, member => eq_ref_of_areProper filters proper member
  | .not filter, proper, member => eq_ref_of_isProper filter proper member
  | .stray _, proper, _ => by contradiction

theorem eq_ref_of_areProper {demand : Demand} : ∀ filters : List Filter,
    everyList Arg.isProper filters = true → demand ∈ demandsOf filters → ∃ r, demand = .ref r
  | [], _, member => by contradiction
  | f :: rest, proper, member => by
    rw [everyList, Bool.and_eq_true] at proper
    rcases List.mem_append.mp member with here | later
    · exact eq_ref_of_isProper f proper.1 here
    · exact eq_ref_of_areProper rest proper.2 later
end

end Filter

namespace Statement

theorem eq_ref_of_isProper {a : Statement} (proper : a.isProper = true) {demand : Demand}
    (member : demand ∈ a.demands) : ∃ r, demand = .ref r := by
  rw [isProper, Bool.and_eq_true] at proper
  rcases List.mem_append.mp member with inFilters | inScope
  · exact Filter.eq_ref_of_areProper a.filters proper.1 inFilters
  · obtain ⟨f, scope, inside⟩ := List.mem_flatMap.mp inScope
    have narrowed := proper.2
    rw [Option.mem_toList.mp scope, Option.all_some] at narrowed
    exact Filter.eq_ref_of_isProper f narrowed inside

/-- If nothing stands in the way of a demand, every template is written out. Otherwise the
leftmost demand that something stands in the way of decides alone, whatever comes behind it. All
demands of a proper statement are references, and without templates a statement stays as it
is. -/
theorem leftmost_decides (store : Store) (a : Statement) :
    ((∀ demand ∈ a.demands, demand.hindrance? store = none) →
      a.instantiate store = .ok (some (a.written store))) ∧
    (∀ before demand after hindrance, a.demands = before ++ demand :: after →
      (∀ earlier ∈ before, earlier.hindrance? store = none) →
      demand.hindrance? store = some hindrance → a.instantiate store = hindrance.outcome) ∧
    (a.isProper = true → ∀ demand ∈ a.demands, ∃ r, demand = .ref r) ∧
    (a.isFixed = true → a.instantiate store = .ok (some a)) := by
  rw [instantiate_eq, scan]
  refine ⟨?_, ?_, fun proper demand => eq_ref_of_isProper proper, ?_⟩
  · intro met
    rw [List.findSome?_eq_none_iff.mpr met]
  · intro before demand after hindrance row met here
    rw [row, List.findSome?_append, List.findSome?_eq_none_iff.mpr met, List.findSome?_cons, here]
    rfl
  · intro finished
    rw [← scan, ← instantiate_eq]
    exact instantiate_of_isFixed finished

/-- Templates at three depths and in the scope. -/
def layeredStatement : Statement where
  action := .allow
  operations := ["file-read*"]
  filters := [
    .all [.not (.only .subpath (.template [.ref ⟨"HOME", false, true⟩, .fixed "/Library"]) []),
      .any [.only .regex (.regex (.template [.fixed "^", .ref ⟨"HOME", true, true⟩])) [],
        .only .literal (.text "/tmp") [.template [.ref ⟨"CACHE", false, false⟩]]]]]
  modifiers := ["no-log"]
  scope := some (.only .extension (.template [.ref ⟨"QUIET", false, false⟩]) [])

def writtenStatement : Statement where
  action := .allow
  operations := ["file-read*"]
  filters := [
    .all [.not (.only .subpath (.text "/a.b/Library") []),
      .any [.only .regex (.regex (.fixed "^/a\\.b")) [],
        .only .literal (.text "/tmp") [.text "-7"]]]]
  modifiers := ["no-log"]
  scope := some (.only .extension (.text "on") [])

/-- A store without a catalogue in which some parameters are bound. -/
def storeOf (parameters : List Parameter) : Store := ⟨none, parameters, none, true⟩

def homeParameter : Parameter := ⟨"HOME", .path, some (.text "/a.b")⟩

def suppliedParameters : List Parameter :=
  [homeParameter, ⟨"CACHE", .int, some (.number (-7))⟩, ⟨"QUIET", .string, some (.text "on")⟩]

/-- An unset parameter makes the statement absent although a toggle comes behind it; where it is
not bound, that is the fault. -/
theorem leftmost_decides_layered :
    layeredStatement.isProper = true ∧
    (∀ demand ∈ layeredStatement.demands, ∃ r, demand = .ref r) ∧
    layeredStatement.instantiate (storeOf suppliedParameters) = .ok (some writtenStatement) ∧
    writtenStatement.isFixed = true ∧
    writtenStatement.instantiate (storeOf []) = .ok (some writtenStatement) ∧
    layeredStatement.instantiate (storeOf [homeParameter, ⟨"CACHE", .optionalPath, none⟩,
      ⟨"QUIET", .bool, some (.flag true)⟩]) = .ok none ∧
    layeredStatement.instantiate (storeOf [homeParameter, ⟨"QUIET", .bool, some (.flag true)⟩]) =
      .error (.parameter (.notBound "CACHE")) := by
  have proper : layeredStatement.isProper = true := by decide
  have finished : writtenStatement.isFixed = true := by decide
  let home : List Demand := [.ref ⟨"HOME", false, true⟩, .ref ⟨"HOME", true, true⟩]
  let quiet : List Demand := [.ref ⟨"QUIET", false, false⟩]
  have row : layeredStatement.demands = home ++ .ref ⟨"CACHE", false, false⟩ :: quiet := rfl
  refine ⟨proper, (leftmost_decides (storeOf []) layeredStatement).2.2.1 proper, ?_, finished,
    (leftmost_decides (storeOf []) writtenStatement).2.2.2 finished, ?_, ?_⟩
  · refine (leftmost_decides (storeOf suppliedParameters) layeredStatement).1 ?_
    rw [row]
    simp only [home, quiet, List.cons_append, List.nil_append, List.forall_mem_cons]
    exact ⟨rfl, rfl, rfl, rfl, nofun⟩
  · exact (leftmost_decides _ layeredStatement).2.1 home _ quiet .skip row
      (List.forall_mem_cons.mpr ⟨rfl, List.forall_mem_singleton.mpr rfl⟩) rfl
  · exact (leftmost_decides _ layeredStatement).2.1 home _ quiet (.fault _) row
      (List.forall_mem_cons.mpr ⟨rfl, List.forall_mem_singleton.mpr rfl⟩) rfl

/-- A port as the only thing that a statement needs. -/
def portStatement : Statement where
  action := .allow
  operations := ["network-outbound"]
  filters := [.only .literal (.template [.ref ⟨"PORT", false, true⟩]) []]
  modifiers := []
  scope := none

def boundPort (i : Int) : Store := storeOf [⟨"PORT", .int, some (.number i)⟩]

/-- Nothing in the place of an argument, and no template. -/
def hollowStatement : Statement where
  action := .allow
  operations := ["file-read*"]
  filters := [.only .literal (.stray .null) []]
  modifiers := []
  scope := none

/-- A set value that is no truth value is not always written: an integer of more than 4300 digits
can be bound, and a template that refers to it is a fault. Nor does a statement without references
always stay as it is: with nothing in the place of an argument it is left out. -/
theorem supplied_not_written :
    Store.ofBindings [("PORT", "int", .int (10 ^ digitLimit))] none =
      .ok (boundPort (10 ^ digitLimit)) ∧
    portStatement.isProper = true ∧
    (∀ demand ∈ portStatement.demands,
      ∃ r, demand = .ref r ∧ r.IsSupplied (boundPort (10 ^ digitLimit))) ∧
    portStatement.instantiate (boundPort (10 ^ digitLimit)) = .error (.parameter .unwritable) ∧
    (∀ r, .ref r ∉ hollowStatement.demands) ∧
    hollowStatement.instantiate (storeOf []) = .ok none := by
  have bound (i : Int) : Store.ofBindings [("PORT", "int", .int i)] none = .ok (boundPort i) := rfl
  have supplied (i : Int) : Ref.IsSupplied (boundPort i) ⟨"PORT", false, true⟩ :=
    ⟨.number i, rfl, nofun⟩
  have refused (i : Int) (long : digitLimit < digitCount i) :
      portStatement.instantiate (boundPort i) = .error (.parameter .unwritable) := by
    have hindered : Demand.hindrance? (boundPort i) (.ref ⟨"PORT", false, true⟩) =
        some (.fault (.parameter .unwritable)) := if_pos long
    have row : portStatement.demands = [.ref ⟨"PORT", false, true⟩] := rfl
    rw [instantiate_eq, scan, row, List.findSome?_cons, hindered]
    rfl
  refine ⟨bound _, by decide, ?_, refused _ (Text.lt_digitCount_pow (by decide)), ?_, rfl⟩
  · intro demand member
    obtain rfl := List.mem_singleton.mp member
    exact ⟨_, rfl, supplied _⟩
  · intro r member
    have only : hollowStatement.demands = [.argument] := rfl
    rw [only] at member
    exact nomatch List.mem_singleton.mp member

end Statement
end SandboxProfile
