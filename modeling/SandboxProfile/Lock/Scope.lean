import SandboxProfile.Lock.Settle

/-! Scopes hold a lock from their beginning to their end, whether they end normally
or by an exception. -/
namespace SandboxProfile.Lock

inductive Scope where
  | scope (mode : Mode) (body : List Scope) (raises : Bool)
  deriving Repr

/-- A mutex behind the interface of the shared lock: either mode takes it alone. -/
structure SerialLock where
  locked : Bool
  deriving Repr, DecidableEq

inductive AnyLock where
  | shared (lock : SharedLock)
  | serial (lock : SerialLock)
  deriving Repr, DecidableEq

namespace AnyLock

/-- Takes the lock in a thread that finds it free. -/
def enter (l : AnyLock) (mode : Mode) : AnyLock :=
  match l with
  | .shared lock => .shared (lock.call (.acquire mode)).1
  | .serial _ => .serial ⟨true⟩

def leave (l : AnyLock) (mode : Mode) : AnyLock :=
  match l with
  | .shared lock => .shared (lock.call (.release mode)).1
  | .serial _ => .serial ⟨false⟩

end AnyLock

inductive ScopeEventKind where
  | entered (mode : Mode)
  | exited (mode : Mode)
  | raised
  deriving Repr, DecidableEq

def ScopeEventKind.label : ScopeEventKind → String
  | .entered mode => "enter " ++ mode.name
  | .exited mode => "exit " ++ mode.name
  | .raised => "raised"

structure ScopeEvent where
  kind : ScopeEventKind
  /-- The lock right after. -/
  lock : AnyLock
  deriving Repr, DecidableEq

/-- What a scope leaves behind: the events, the lock, and whether an exception
goes on outwards. -/
structure ScopeRun where
  events : List ScopeEvent
  lock : AnyLock
  raised : Bool
  deriving Repr, DecidableEq

mutual
def Scope.run (l : AnyLock) : Scope → ScopeRun
  | .scope mode body raises =>
    let inside := l.enter mode
    let inner := Scope.runList inside body
    let outside := inner.lock.leave mode
    let events := ⟨.entered mode, inside⟩ :: inner.events
    if inner.raised || raises then ⟨events, outside, true⟩
    else ⟨events ++ [⟨.exited mode, outside⟩], outside, false⟩

/-- An exception in one scope keeps those after it from being entered. -/
def Scope.runList (l : AnyLock) : List Scope → ScopeRun
  | [] => ⟨[], l, false⟩
  | s :: rest =>
    let first := Scope.run l s
    if first.raised then first
    else
      let others := Scope.runList first.lock rest
      ⟨first.events ++ others.events, others.lock, others.raised⟩
end

/-- Runs outermost scopes one after another; each of them may raise. -/
def Scope.runOutermost (l : AnyLock) : List Scope → List ScopeEvent
  | [] => []
  | s :: rest =>
    let r := Scope.run l s
    r.events ++ (if r.raised then [⟨.raised, r.lock⟩] else []) ++ runOutermost r.lock rest

end SandboxProfile.Lock
