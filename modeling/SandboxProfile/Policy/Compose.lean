import SandboxProfile.Log.Record
import SandboxProfile.Log.Traced
import SandboxProfile.Policy.Document

/-! Composition: a library, a store, a tier and roles give one document. The
posture comes first, then the base, the tier and every more restrictive one, and
the addenda in the order of the roles. A document is complete or there is none. -/
namespace SandboxProfile

/-- What happens during a composition. -/
inductive Event where
  | skipped (id : String)
  | statementSkipped (id : String) (operations : List String)
  | included (id : String) (statements : Nat)
  | aborted (id : String) (fault : PolicyFault)
  | composed (library : String) (tier : Option Tier) (roles : List String)
      (fragments statements : Nat)
  deriving Repr, BEq

def tierText (tier : Option Tier) : String :=
  match tier with
  | none => "none"
  | some t => toString t.toNat

namespace Event

def severity : Event → Severity
  | .aborted _ _ => .error
  | .composed _ _ _ _ _ => .info
  | _ => .debug

def text : Event → String
  | .skipped id => s!"Fragment {id} skipped: guard is false"
  | .statementSkipped id operations =>
    s!"Fragment {id}: statement " ++ Text.joinWith " " operations ++
      " skipped, optional parameter unset"
  | .included id statements => s!"Fragment {id} included: {statements} statement(s)"
  | .aborted id fault => s!"Assembly aborted in fragment {id}: {fault.message}"
  | .composed library tier roles fragments statements =>
    let names := if roles.isEmpty then "-" else Text.joinWith "," roles
    let names := if names == "" then "-" else names
    s!"Composed {library} policy: tier={tierText tier} roles={names} " ++
      s!"fragments={fragments} statements={statements}"

def record (e : Event) : LogRecord := ⟨e.severity, "sbprofile.core.policy.composer", e.text⟩

end Event

inductive ComposeFault where
  | unknownTier (value : Value)
  | undeclaredTier (library : String) (tier : Tier)
  | unknownRole (role : String)
  | duplicateFragment (id : String)
  /-- The posture does not begin by denying everything. -/
  | openPosture (library id : String)
  | inFragment (id : String) (fault : PolicyFault)
  | inAlias (fault : PolicyFault)
  deriving Repr, BEq

namespace ComposeFault

def message : ComposeFault → String
  | .unknownTier value => s!"Unknown tier {value.literal}"
  | .undeclaredTier library tier =>
    s!"Library {Text.quoted library} does not declare tier {tier.toNat}"
  | .unknownRole role => s!"Unknown process role {Text.quoted role}"
  | .duplicateFragment id => s!"Fragment {Text.quoted id} would be included twice"
  | .openPosture library _ =>
    s!"Posture of library {Text.quoted library} does not start with deny default"
  | .inFragment _ fault => fault.message
  | .inAlias fault => fault.message

/-- The fragment that a fault is attributed to. -/
def fragment? : ComposeFault → Option String
  | .duplicateFragment id => some id
  | .openPosture _ id => some id
  | .inFragment id fault => if fault.isOwn then some id else none
  | _ => none

theorem fragment?_inFragment (id : String) {fault : PolicyFault} (own : fault.isOwn = true) :
    (inFragment id fault).fragment? = some id := if_pos own

end ComposeFault

mutual
/-- The statements of a node, with a note for each one that is left out. -/
def Node.resolve (store : Store) (id : String) :
    Node → Traced Event PolicyFault (List Statement)
  | .leaf s => do
    match ← Traced.ofExcept (s.instantiate store) with
    | none =>
      Traced.note (.statementSkipped id s.operations)
      pure []
    | some resolved => pure [resolved]
  | .guarded guard body otherwise => do
    if ← Traced.ofExcept (guard.evaluate store) then Node.resolveList store id body
    else Node.resolveList store id otherwise
  | .stray value => Traced.fail (.notNode value)

def Node.resolveList (store : Store) (id : String) :
    List Node → Traced Event PolicyFault (List Statement)
  | [] => pure []
  | node :: rest => do
    let here ← Node.resolve store id node
    let others ← Node.resolveList store id rest
    pure (here ++ others)
end

/-- A fragment on its own: its statements, or nothing if its guard is false. -/
def Fragment.resolve (store : Store) (f : Fragment) :
    Traced Event PolicyFault (Option (List Statement)) := do
  if ← Traced.ofExcept (f.guard.evaluate store) then
    let statements ← Node.resolveList store f.id f.body
    pure (some statements)
  else pure none

/-- What has been put together so far. -/
structure Assembly where
  statements : List Statement
  fragmentIds : List String
  visited : List String
  deriving Repr

namespace Assembly

def empty : Assembly := ⟨[], [], []⟩

def add (store : Store) (a : Assembly) (f : Fragment) :
    Traced Event ComposeFault Assembly :=
  if a.visited.contains f.id then Traced.fail (.duplicateFragment f.id)
  else
    let visited := f.id :: a.visited
    match f.resolve store with
    | ⟨notes, .ok (some statements)⟩ =>
      ⟨notes ++ [.included f.id statements.length],
        .ok ⟨a.statements ++ statements, a.fragmentIds ++ [f.id], visited⟩⟩
    | ⟨notes, .ok none⟩ =>
      ⟨notes ++ [.skipped f.id], .ok { a with visited := visited }⟩
    | ⟨notes, .error fault⟩ =>
      ⟨notes ++ (if fault.isOwn then [.aborted f.id fault] else []),
        .error (.inFragment f.id fault)⟩

def addAll (store : Store) (a : Assembly) : List Fragment → Traced Event ComposeFault Assembly
  | [] => pure a
  | f :: rest => do
    let a ← a.add store f
    a.addAll store rest

end Assembly

namespace Library

/-- The tier that a value asks for. Nothing asks for none. -/
def selectTier (requested : Value) : Except ComposeFault (Option Tier) :=
  match requested with
  | .null => .ok none
  | value =>
    match Tier.ofValue? value with
    | none => .error (.unknownTier value)
    | some t => .ok (some t)

def checkTier (l : Library) : Option Tier → Except ComposeFault Unit
  | none => .ok ()
  | some t => if (l.tier? t).isSome then .ok () else .error (.undeclaredTier l.name t)

def checkRoles (l : Library) (roles : List String) : Except ComposeFault Unit :=
  match roles.find? fun role => (l.addendum? role).isNone with
  | some role => .error (.unknownRole role)
  | none => .ok ()

/-- The fragments that a composition considers after the posture. -/
def considered (l : Library) (tier : Option Tier) (roles : List String) : List Fragment :=
  l.base ++ (tier.map l.tierFragments).getD [] ++
    roles.flatMap fun role => (l.addendum? role).getD []

/-- The renames in force; of two for one operation the later one stands first. -/
def activeRenames (store : Store) : List AliasSet → Except PolicyFault (List (String × String))
  | [] => .ok []
  | a :: rest => do
    let active ← a.guard.evaluate store
    let later ← activeRenames store rest
    pure (later ++ if active then a.renames.reverse else [])

def composeSelected (l : Library) (store : Store) (tier : Option Tier) (roles : List String) :
    Traced Event ComposeFault Document := do
  let opening ← Assembly.empty.add store l.posture
  unless (opening.statements.head?.map Statement.isDenyDefault).getD false do
    Traced.fail (.openPosture l.name l.posture.id)
  let a ← opening.addAll store (l.considered tier roles)
  let renames ← Traced.ofExcept ((activeRenames store l.aliases).mapError .inAlias)
  let statements := a.statements.map (Statement.rename renames)
  Traced.note (.composed l.name tier roles a.fragmentIds.length statements.length)
  pure ⟨statements, tier, roles, a.fragmentIds, l.name⟩

/-- Composes for a tier, which must be declared, or for none. -/
def composeChosen (l : Library) (store : Store) (tier : Option Tier) (roles : List String) :
    Traced Event ComposeFault Document := do
  Traced.ofExcept (l.checkTier tier)
  Traced.ofExcept (l.checkRoles roles)
  l.composeSelected store tier roles

def compose (l : Library) (store : Store) (requested : Value) (roles : List String) :
    Traced Event ComposeFault Document := do
  let tier ← Traced.ofExcept (selectTier requested)
  l.composeChosen store tier roles

end Library
end SandboxProfile
