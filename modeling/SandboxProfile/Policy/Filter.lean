import SandboxProfile.Policy.Template

/-! Filters narrow a statement down. They are written as parenthesised forms, and
their templates are resolved against a store before they are. -/
namespace SandboxProfile

inductive FilterKind where
  | literal
  | subpath
  | regex
  | fileMode
  | vnodeType
  | target
  | globalName
  | globalNameRegex
  | xpcServiceName
  | sysctlName
  | sysctlNameRegex
  | iokitProperty
  | iokitUserClientClass
  | iokitConnection
  | iokitRegistryEntryClass
  | ipcPosixNameRegex
  | preferenceDomain
  | extension
  deriving Repr, DecidableEq

namespace FilterKind

def all : List FilterKind :=
  [.literal, .subpath, .regex, .fileMode, .vnodeType, .target, .globalName, .globalNameRegex,
    .xpcServiceName, .sysctlName, .sysctlNameRegex, .iokitProperty, .iokitUserClientClass,
    .iokitConnection, .iokitRegistryEntryClass, .ipcPosixNameRegex, .preferenceDomain, .extension]

def name : FilterKind → String
  | .literal => "literal"
  | .subpath => "subpath"
  | .regex => "regex"
  | .fileMode => "file-mode"
  | .vnodeType => "vnode-type"
  | .target => "target"
  | .globalName => "global-name"
  | .globalNameRegex => "global-name-regex"
  | .xpcServiceName => "xpc-service-name"
  | .sysctlName => "sysctl-name"
  | .sysctlNameRegex => "sysctl-name-regex"
  | .iokitProperty => "iokit-property"
  | .iokitUserClientClass => "iokit-user-client-class"
  | .iokitConnection => "iokit-connection"
  | .iokitRegistryEntryClass => "iokit-registry-entry-class"
  | .ipcPosixNameRegex => "ipc-posix-name-regex"
  | .preferenceDomain => "preference-domain"
  | .extension => "extension"

def ofName? (s : String) : Option FilterKind := all.find? (·.name == s)

theorem ofName?_name (k : FilterKind) : ofName? k.name = some k := by
  cases k <;> decide

end FilterKind

inductive Pattern where
  | fixed (text : String)
  | template (t : Template)
  deriving Repr, DecidableEq

inductive Arg where
  | text (s : String)
  | symbol (name : String)
  | regex (pattern : Pattern)
  | mode (mask : Int)
  | template (t : Template)
  /-- A value in the place of an argument. -/
  | stray (value : Value)
  deriving Repr, BEq, Inhabited

/-- A filter of a kind has a first argument, so it is never without one. -/
inductive Filter where
  | only (kind : FilterKind) (first : Arg) (others : List Arg)
  | all (filters : List Filter)
  | any (filters : List Filter)
  | not (filter : Filter)
  /-- A value in the place of a filter. -/
  | stray (value : Value)
  deriving Repr, BEq, Inhabited

/-- A filter of a kind that is given by its name. -/
def Filter.ofKind (kind : String) (args : List Arg) : Except ModelFault Filter :=
  match FilterKind.ofName? kind, args with
  | none, _ => .error (.unknownFilterKind kind)
  | some _, [] => .error (.filterWithoutArguments kind)
  | some k, first :: others => .ok (.only k first others)

namespace Arg

/-- A text between double quotes, with a backslash before quotes and backslashes. -/
def quote (s : String) : String :=
  "\"" ++ String.ofList (s.toList.flatMap fun c => if c = '\\' || c = '"' then ['\\', c] else [c]) ++
    "\""

/-- A mask in octal, with at least four characters; the sign is one of them. -/
def octal (mask : Int) : String :=
  let digits := Nat.toDigits 8 mask.natAbs
  let sign := if mask < 0 then "-" else ""
  let width := 4 - sign.length
  "#o" ++ sign ++ String.ofList (List.replicate (width - digits.length) '0' ++ digits)

def render : Arg → Except PolicyFault String
  | .text s => .ok (quote s)
  | .symbol name => .ok name
  | .mode mask => .ok (octal mask)
  | .regex (.fixed pattern) => .ok ("#\"" ++ pattern ++ "\"")
  | .regex (.template t) => .error (.unresolvedRegex t.literal)
  | .template t => .error (.unresolvedTemplate t.literal)
  | .stray value => .error (.notArgument value)

/-- An argument without templates, or nothing if it is absent. -/
def instantiate (store : Store) : Arg → Except PolicyFault (Option Arg)
  | .template t => (t.render store).map fun out => out.map .text
  | .regex (.template t) => (t.render store).map fun out => out.map fun s => .regex (.fixed s)
  | .stray .null => .ok none
  | arg => .ok (some arg)

end Arg

/-- Goes through a list from left to right, up to the first absent result. -/
def traverseOption (f : α → Except ε (Option β)) : List α → Except ε (Option (List β))
  | [] => .ok (some [])
  | a :: rest => do
    match ← f a with
    | none => pure none
    | some b => (traverseOption f rest).map fun bs => bs.map (b :: ·)

namespace Filter

mutual
def render : Filter → Except PolicyFault String
  | .only kind first others => do
    let args ← (first :: others).mapM Arg.render
    pure ("(" ++ Text.joinWith " " (kind.name :: args) ++ ")")
  | .all filters => do
    let inner ← renderList filters
    pure ("(" ++ Text.joinWith " " ("require-all" :: inner) ++ ")")
  | .any filters => do
    let inner ← renderList filters
    pure ("(" ++ Text.joinWith " " ("require-any" :: inner) ++ ")")
  | .not filter => do
    let inner ← render filter
    pure ("(require-not " ++ inner ++ ")")
  | .stray value => .error (.notFilter value)

def renderList : List Filter → Except PolicyFault (List String)
  | [] => .ok []
  | f :: rest => do
    let s ← render f
    let others ← renderList rest
    pure (s :: others)
end

mutual
/-- The filter without templates, or nothing if a part of it is absent. -/
def instantiate (store : Store) : Filter → Except PolicyFault (Option Filter)
  | .only kind first others => do
    match ← first.instantiate store with
    | none => pure none
    | some a =>
      (traverseOption (Arg.instantiate store) others).map fun out => out.map (.only kind a ·)
  | .all filters => (instantiateList store filters).map fun out => out.map .all
  | .any filters => (instantiateList store filters).map fun out => out.map .any
  | .not filter => (instantiate store filter).map fun out => out.map .not
  | .stray value => .error (.notFilter value)

def instantiateList (store : Store) : List Filter → Except PolicyFault (Option (List Filter))
  | [] => .ok (some [])
  | f :: rest => do
    match ← instantiate store f with
    | none => pure none
    | some g => (instantiateList store rest).map fun out => out.map (g :: ·)
end

end Filter
end SandboxProfile
