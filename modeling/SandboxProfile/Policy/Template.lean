import SandboxProfile.Parameter.Store
import SandboxProfile.Policy.Fault

/-! Templates: fixed text and references to parameters, put together in order and
never evaluated. A reference to an optional parameter that is not set makes the
whole text absent, which leaves out the statement around it. -/
namespace SandboxProfile

structure Ref where
  param : String
  /-- The value is written so that a regular expression reads it literally. -/
  regexQuote : Bool
  /-- An unset parameter is a fault and does not make the text absent. -/
  required : Bool
  deriving Repr, DecidableEq

inductive Part where
  | fixed (text : String)
  | ref (ref : Ref)
  deriving Repr, DecidableEq

abbrev Template := List Part

namespace Template

/-- The characters with a meaning of their own in a regular expression. -/
def isMeta (c : Char) : Bool :=
  ['\\', '.', '^', '$', '|', '?', '*', '+', '(', ')', '[', ']', '\x7b', '\x7d'].contains c

def regexQuoteList (cs : List Char) : List Char :=
  cs.flatMap fun c => if isMeta c then ['\\', c] else [c]

def regexQuote (s : String) : String := String.ofList (regexQuoteList s.toList)

def refs (t : Template) : List Ref :=
  t.filterMap fun
    | .ref r => some r
    | .fixed _ => none

private def refLiteral (r : Ref) : String :=
  "Ref(param=" ++ Text.quoted r.param ++ ", regex_quote=" ++ Value.boolText r.regexQuote ++
    ", required=" ++ Value.boolText r.required ++ ")"

private def partLiteral : Part → String
  | .fixed text => Text.quoted text
  | .ref r => refLiteral r

/-- A template as messages show it. -/
def literal (t : Template) : String :=
  let parts := match t with
    | [p] => partLiteral p ++ ","
    | ps => Text.joinWith ", " (ps.map partLiteral)
  "Template(parts=(" ++ parts ++ "))"

end Template

/-- The text that a reference stands for, if its parameter is set. An integer that
was bound as a number may be too long to be written. -/
def Ref.resolve (store : Store) (r : Ref) : Except PolicyFault (Option String) :=
  match store.setting r.param with
  | .error fault => .error (.parameter fault)
  | .ok none => if r.required then .error (.requiredUnset r.param) else .ok none
  | .ok (some (.flag _)) => .error (.parameter (.flagInTemplate r.param))
  | .ok (some (.number i)) =>
    if Text.digitLimit < Text.digitCount i then .error (.parameter .unwritable)
    else .ok (some (write (toString i)))
  | .ok (some (.text s)) => .ok (some (write s))
where
  write (s : String) : String := if r.regexQuote then Template.regexQuote s else s

namespace Template

/-- Looks at the references from left to right, up to the first that decides. -/
def render (store : Store) : Template → Except PolicyFault (Option String)
  | [] => .ok (some "")
  | .fixed text :: rest => (render store rest).map fun out => out.map (text ++ ·)
  | .ref r :: rest => do
    match ← r.resolve store with
    | none => pure none
    | some text => (render store rest).map fun out => out.map (text ++ ·)

end Template
end SandboxProfile
