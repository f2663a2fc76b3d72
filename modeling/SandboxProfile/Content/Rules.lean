import SandboxProfile.Policy.Library

/-! The vocabulary in which the content library is written: filters on paths and
names, and statements as nodes of a fragment. -/
namespace SandboxProfile.Content

def param (name : String) : Part := .ref ⟨name, false, false⟩
def quotedParam (name : String) : Part := .ref ⟨name, true, false⟩
def requiredParam (name : String) : Part := .ref ⟨name, false, true⟩

def homePath : String := "HOME_PATH"
def appPath : String := "APP_PATH"
def profileDir : String := "PROFILE_DIR"
def shouldLog : String := "SHOULD_LOG"
def hasSandboxedProfile : String := "HAS_SANDBOXED_PROFILE"

def named (kind : FilterKind) (name : String) : Filter := .only kind (.text name) []

/-- One filter for each name. -/
def eachNamed (kind : FilterKind) (names : List String) : List Filter := names.map (named kind)

/-- One filter for all names. -/
def allNamed (kind : FilterKind) (first : String) (others : List String) : Filter :=
  .only kind (.text first) (others.map .text)

def symbol (kind : FilterKind) (name : String) : Filter := .only kind (.symbol name) []

def pattern (kind : FilterKind) (regex : String) : Filter := .only kind (.regex (.fixed regex)) []

def templated (kind : FilterKind) (t : Template) : Filter := .only kind (.template t) []

def literal (path : String) : Filter := named .literal path
def subpath (path : String) : Filter := named .subpath path

def regexes (first : String) (others : List String) : Filter :=
  .only .regex (.regex (.fixed first)) (others.map fun r => .regex (.fixed r))

def homeSubpath (relative : String) : Filter := templated .subpath [param homePath, .fixed relative]
def homeLiteral (relative : String) : Filter := templated .literal [param homePath, .fixed relative]

/-- A regular expression below the home directory, which is matched literally. -/
def homeRegex (relative : String) : Filter :=
  .only .regex (.regex (.template [.fixed "^", quotedParam homePath, .fixed relative])) []

def profileSubpath (relative : String) : Filter :=
  templated .subpath [requiredParam profileDir, .fixed relative]

def allow (operations : List String) (filters : List Filter) : Node :=
  .leaf ⟨.allow, operations, filters, [], none⟩

def allowWithin (scope : Filter) (operations : List String) (filters : List Filter) : Node :=
  .leaf ⟨.allow, operations, filters, [], some scope⟩

def deny (operation : String) (modifiers : List String) : Node :=
  .leaf ⟨.deny, [operation], [], modifiers, none⟩

def debug (operation : String) : Node := .leaf ⟨.debug, [operation], [], [], none⟩

def whenHolds (guard : Guard) (body : List Node) : Node := .guarded guard body []

def choose (guard : Guard) (body otherwise : List Node) : Node := .guarded guard body otherwise

/-- Denies an operation, and keeps silent about it unless denials are logged. -/
def denyQuietly (operation : String) : Node :=
  choose (.isTrue shouldLog) [deny operation []] [deny operation ["no-log"]]

/-- A fragment that is always considered in full. -/
def always (id : String) (body : List Node) : Fragment := ⟨id, body, .always, ""⟩

def guarded (id : String) (guard : Guard) (body : List Node) : Fragment := ⟨id, body, guard, ""⟩

def described (description : String) (f : Fragment) : Fragment :=
  { f with description := description }

end SandboxProfile.Content
