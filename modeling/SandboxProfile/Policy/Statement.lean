import SandboxProfile.Policy.Filter

/-! Statements: an action on operations, narrowed down by filters and by the scope
around it. -/
namespace SandboxProfile

inductive Action where
  | allow
  | deny
  | debug
  deriving Repr, DecidableEq

namespace Action

def all : List Action := [.allow, .deny, .debug]

def name : Action → String
  | .allow => "allow"
  | .deny => "deny"
  | .debug => "debug"

def ofName (s : String) : Except ModelFault Action :=
  match all.find? (·.name == s) with
  | some a => .ok a
  | none => .error (.unknownAction s)

end Action

def defaultOperation : String := "default"

structure Statement where
  action : Action
  operations : List String
  filters : List Filter
  modifiers : List String
  scope : Option Filter
  deriving Repr, BEq

namespace Statement

/-- Whether a statement denies everything that no other statement allows. -/
def isDenyDefault (s : Statement) : Bool :=
  s.action == .deny && s.operations == [defaultOperation] && s.filters.isEmpty && s.scope.isNone

def instantiateScope (store : Store) : Option Filter → Except PolicyFault (Option (Option Filter))
  | none => .ok (some none)
  | some f => (f.instantiate store).map fun out => out.map some

/-- The statement without templates, or nothing if a part of it is absent. -/
def instantiate (store : Store) (s : Statement) : Except PolicyFault (Option Statement) := do
  match ← Filter.instantiateList store s.filters with
  | none => pure none
  | some filters =>
    (instantiateScope store s.scope).map fun out =>
      out.map fun scope => { s with filters := filters, scope := scope }

def indent (depth : Nat) : String := String.ofList (List.replicate (2 * depth) ' ')

/-- A statement without its scope: on one line if it has at most one filter or
modifier, else with one line for each of them. -/
def renderBare (depth : Nat) (s : Statement) : Except PolicyFault String := do
  let filters ← Filter.renderList s.filters
  let items := filters ++ s.modifiers.map fun m => "(with " ++ m ++ ")"
  let head := indent depth ++ "(" ++ Text.joinWith " " (s.action.name :: s.operations)
  match items with
  | [] => pure (head ++ ")")
  | [item] => pure (head ++ " " ++ item ++ ")")
  | items =>
    let lines := items.map fun item => indent (depth + 1) ++ item
    pure (head ++ "\n" ++ Text.joinWith "\n" lines ++ ")")

def render (depth : Nat) (s : Statement) : Except PolicyFault String :=
  match s.scope with
  | none => s.renderBare depth
  | some f => do
    let inner ← s.renderBare (depth + 1)
    let scope ← f.render
    pure (indent depth ++ "(with-filter " ++ scope ++ "\n" ++ inner ++ ")")

/-- The statement with its operations renamed. -/
def rename (renames : List (String × String)) (s : Statement) : Statement :=
  { s with operations := s.operations.map fun op => (renames.lookup op).getD op }

end Statement
end SandboxProfile
