import SandboxProfile.Parameter.Fault

/-! The causes for which a policy cannot be resolved or written. -/
namespace SandboxProfile

inductive PolicyFault where
  | parameter (fault : ParameterFault)
  /-- A template needs a parameter that is bound but not set. -/
  | requiredUnset (param : String)
  /-- A template is left where finished text is needed. -/
  | unresolvedTemplate (shown : String)
  | unresolvedRegex (shown : String)
  | notGuard (value : Value)
  | notFilter (value : Value)
  | notArgument (value : Value)
  | notNode (value : Value)
  deriving Repr, BEq

namespace PolicyFault

def message : PolicyFault → String
  | .parameter fault => fault.message
  | .requiredUnset param =>
    s!"Template requires parameter {Text.quoted param} but it is not set"
  | .unresolvedTemplate shown => s!"Unresolved template: {shown}"
  | .unresolvedRegex shown => s!"Unresolved regex template: {shown}"
  | .notGuard value => s!"Not a guard: {value.literal}"
  | .notFilter value => s!"Not a filter expression: {value.literal}"
  | .notArgument value => s!"Not a filter argument: {value.literal}"
  | .notNode value => s!"Not a fragment node: {value.literal}"

/-- Whether a policy tree holds a value where it may hold only parts of a policy. -/
def isMalformed : PolicyFault → Bool
  | .notGuard _ | .notFilter _ | .notArgument _ | .notNode _ => true
  | _ => false

/-- Whether a fault is one of parameters or of the assembly. Only such a fault is
reported with the fragment that it happens in. -/
def isOwn : PolicyFault → Bool
  | .parameter fault => fault.concernsParameter
  | fault => !fault.isMalformed

end PolicyFault

/-- The causes for which a part of a policy cannot be constructed. -/
inductive ModelFault where
  | unknownComparison (text : String)
  | unknownFilterKind (text : String)
  | filterWithoutArguments (kind : String)
  | unknownAction (text : String)
  | unknownTier (shown : String)
  deriving Repr, DecidableEq

def ModelFault.message : ModelFault → String
  | .unknownComparison text => s!"Unsupported comparison operator {Text.quoted text}"
  | .unknownFilterKind text => s!"Unknown filter kind {Text.quoted text}"
  | .filterWithoutArguments kind => s!"Filter {Text.quoted kind} needs at least one argument"
  | .unknownAction text => s!"{Text.quoted text} is not a valid Action"
  | .unknownTier shown => s!"{shown} is not a valid Tier"

end SandboxProfile
