import SandboxProfile.Parameter.Store
import SandboxProfile.Policy.Fault

/-! Guards: conditions on the parameters of a store. Conjunction and disjunction
look at their terms from left to right and stop at the first that decides. A name
that is not bound is a fault and never counts as false. -/
namespace SandboxProfile

inductive Comparison where
  | lt
  | le
  | eq
  | ge
  | gt
  deriving Repr, DecidableEq

namespace Comparison

def all : List Comparison := [.lt, .le, .eq, .ge, .gt]

def symbol : Comparison → String
  | .lt => "<"
  | .le => "<="
  | .eq => "="
  | .ge => ">="
  | .gt => ">"

def ofSymbol? (s : String) : Option Comparison := all.find? (·.symbol == s)

def holds (c : Comparison) (a b : Int) : Bool :=
  match c with
  | .lt => a < b
  | .le => a ≤ b
  | .eq => a = b
  | .ge => b ≤ a
  | .gt => b < a

end Comparison

inductive Guard where
  | always
  | compare (param : String) (op : Comparison) (value : Int)
  | equals (param value : String)
  | isTrue (param : String)
  | isSet (param : String)
  | defined (primitive : String)
  | all (terms : List Guard)
  | any (terms : List Guard)
  | not (term : Guard)
  /-- A value in the place of a guard. -/
  | stray (value : Value)
  deriving Repr, BEq, Inhabited

namespace Guard

def compareHolds (store : Store) (param : String) (op : Comparison) (value : Int) :
    Except ParameterFault Bool := do
  match ← store.setting param with
  | some (.number i) => pure (op.holds i value)
  | setting => throw (.notNumeric param setting)

/-- The fault of a setting that is no toggle. Its message shows the setting, which
cannot be done with an integer that is too long. -/
def toggleFault (param : String) : Option Setting → ParameterFault
  | some (.number i) =>
    if Text.digitLimit < Text.digitCount i then .unwritable
    else .notToggle param (some (.number i))
  | setting => .notToggle param setting

def toggleHolds (store : Store) (param : String) : Except ParameterFault Bool := do
  match ← store.setting param with
  | some (.flag on) => pure on
  | setting => throw (toggleFault param setting)

def equalsHolds (store : Store) (param value : String) : Except ParameterFault Bool :=
  (store.setting param).map (· == some (.text value))

mutual
def evaluate (store : Store) : Guard → Except PolicyFault Bool
  | .always => .ok true
  | .compare param op value => (compareHolds store param op value).mapError .parameter
  | .equals param value => (equalsHolds store param value).mapError .parameter
  | .isTrue param => (toggleHolds store param).mapError .parameter
  | .isSet param => (store.isSet param).mapError .parameter
  | .defined primitive => (store.defines primitive).mapError .parameter
  | .all terms => evaluateAll store terms
  | .any terms => evaluateAny store terms
  | .not term => (evaluate store term).map (!·)
  | .stray value => .error (.notGuard value)

def evaluateAll (store : Store) : List Guard → Except PolicyFault Bool
  | [] => .ok true
  | g :: rest =>
    match evaluate store g with
    | .ok true => evaluateAll store rest
    | other => other

def evaluateAny (store : Store) : List Guard → Except PolicyFault Bool
  | [] => .ok false
  | g :: rest =>
    match evaluate store g with
    | .ok false => evaluateAny store rest
    | other => other
end

theorem evaluateAll_cons (store : Store) (g : Guard) (rest : List Guard) :
    evaluateAll store (g :: rest) =
      g.evaluate store >>= fun holds => if holds then evaluateAll store rest else .ok false := by
  rw [evaluateAll]
  rcases g.evaluate store with fault | holds
  · rfl
  · cases holds <;> rfl

theorem evaluateAny_cons (store : Store) (g : Guard) (rest : List Guard) :
    evaluateAny store (g :: rest) =
      g.evaluate store >>= fun holds => if holds then .ok true else evaluateAny store rest := by
  rw [evaluateAny]
  rcases g.evaluate store with fault | holds
  · rfl
  · cases holds <;> rfl

mutual
/-- A guard as a readable condition. -/
def describe : Guard → Except PolicyFault String
  | .always => .ok "always"
  | .compare param op value => .ok s!"{param} {op.symbol} {value}"
  | .equals param value => .ok s!"{param} == {Text.quoted value}"
  | .isTrue param => .ok param
  | .isSet param => .ok s!"set({param})"
  | .defined primitive => .ok s!"defined({primitive})"
  | .all terms => (describeTerms terms).map (Text.joinWith " and ")
  | .any terms => (describeTerms terms).map (Text.joinWith " or ")
  | .not term => (describe term).map fun s => s!"not ({s})"
  | .stray value => .error (.notGuard value)

def describeTerms : List Guard → Except PolicyFault (List String)
  | [] => .ok []
  | g :: rest => do
    let s ← describe g
    let others ← describeTerms rest
    pure (s!"({s})" :: others)
end

def versionAtLeast (version : Int) : Guard := .compare versionParameter .ge version
def versionAtMost (version : Int) : Guard := .compare versionParameter .le version

end Guard
end SandboxProfile
