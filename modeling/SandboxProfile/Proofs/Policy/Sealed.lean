import SandboxProfile.Content.Library
import SandboxProfile.Proofs.Form.Policy
import SandboxProfile.Proofs.Policy.Alike

/-! Sealed libraries. Names are plain, guards compare no texts, and only paths get
into regular expressions. What such a library resolves to in two stores that differ
in texts only has one outline. -/
namespace SandboxProfile

namespace Form

mutual
/-- A form without what stands inside its texts and regular expressions. -/
def outline : Form → Form
  | .text _ => .text ""
  | .regex _ => .regex ""
  | .list items => .list (outlines items)
  | .atom name => .atom name
  | .mask value => .mask value

def outlines : List Form → List Form
  | [] => []
  | form :: rest => outline form :: outlines rest
end

theorem outlines_eq_map (forms : List Form) : outlines forms = forms.map outline := by
  induction forms with
  | nil => rfl
  | cons form rest ih => rw [outlines, ih, List.map_cons]

end Form

/-- Whether a template for a regular expression has no quotes of its own and refers
to the given names only. -/
def Template.isSealed (paths : List String) (parts : Template) : Bool :=
  parts.all fun
    | .fixed text => !hasDoubleQuote text
    | .ref r => paths.contains r.param

def Arg.isSealed (paths : List String) : Arg → Bool
  | .text _ => true
  | .symbol name => Form.isPlainName name
  | .regex (.fixed pattern) => !hasDoubleQuote pattern
  | .regex (.template parts) => parts.isSealed paths
  | .mode _ => true
  | .template _ => true
  | .stray .null => true
  | .stray _ => false

mutual
/-- A value in the place of a filter is refused with any store. -/
def Filter.isSealed (paths : List String) : Filter → Bool
  | .only _ first others => first.isSealed paths && others.all (Arg.isSealed paths)
  | .all filters => Filter.areSealed paths filters
  | .any filters => Filter.areSealed paths filters
  | .not filter => Filter.isSealed paths filter
  | .stray _ => true

def Filter.areSealed (paths : List String) : List Filter → Bool
  | [] => true
  | f :: rest => Filter.isSealed paths f && Filter.areSealed paths rest
end

def Statement.isSealed (paths : List String) (s : Statement) : Bool :=
  s.operations.all Form.isPlainName && s.modifiers.all Form.isPlainName &&
    Filter.areSealed paths s.filters && s.scope.all (Filter.isSealed paths)

mutual
def Node.isSealed (paths : List String) : Node → Bool
  | .leaf s => s.isSealed paths
  | .guarded guard body otherwise =>
    !guard.comparesText && Node.areSealed paths body && Node.areSealed paths otherwise
  | .stray _ => true

def Node.areSealed (paths : List String) : List Node → Bool
  | [] => true
  | node :: rest => Node.isSealed paths node && Node.areSealed paths rest
end

def Fragment.isSealed (paths : List String) (f : Fragment) : Bool :=
  !f.guard.comparesText && Node.areSealed paths f.body

/-- Only what operations are renamed to gets into a document. -/
def AliasSet.isSealed (a : AliasSet) : Bool :=
  !a.guard.comparesText && a.renames.all fun (_, target) => Form.isPlainName target

/-- Whether values cannot get out of their places in what a library is composed
into, if the given names are bound as paths. -/
def Library.isSealed (paths : List String) (l : Library) : Bool :=
  l.fragments.all (Fragment.isSealed paths) && l.aliases.all AliasSet.isSealed

theorem content_isSealed : Content.library.isSealed [Content.homePath] = true := by
  decide +kernel

end SandboxProfile
