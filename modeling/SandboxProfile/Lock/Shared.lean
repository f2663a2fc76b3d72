/-! A lock that many readers or one writer hold. A waiting writer keeps new readers
out. Threads that find the lock taken sleep until they are notified, and look
again whenever they wake. Every function here is one atomic step. -/
namespace SandboxProfile.Lock

inductive Mode where
  | shared
  | exclusive
  deriving Repr, DecidableEq

def Mode.name : Mode → String
  | .shared => "shared"
  | .exclusive => "exclusive"

/-- Where a thread stands. -/
inductive Phase where
  | idle
  | asleep (mode : Mode) (notified : Bool)
  | holding (mode : Mode)
  deriving Repr, DecidableEq

structure SharedLock where
  readers : Nat
  writer : Bool
  /-- The threads that have asked for exclusive access and not yet got it. -/
  waitingWriters : Nat
  threads : List Phase
  deriving Repr, DecidableEq

inductive LockFault where
  | notShared
  | notExclusive
  deriving Repr, DecidableEq

def LockFault.message : LockFault → String
  | .notShared => "release_shared() without a shared holder"
  | .notExclusive => "release_exclusive() without an exclusive holder"

namespace Phase

def isNotified : Phase → Bool
  | .asleep _ notified => notified
  | _ => false

def isAsleep : Phase → Bool
  | .asleep _ _ => true
  | _ => false

def notify : Phase → Phase
  | .asleep mode _ => .asleep mode true
  | p => p

end Phase

namespace SharedLock

def fresh (threads : Nat) : SharedLock := ⟨0, false, 0, List.replicate threads .idle⟩

def notifyAll (l : SharedLock) : SharedLock := { l with threads := l.threads.map Phase.notify }

def setPhase (l : SharedLock) (i : Nat) (p : Phase) : SharedLock :=
  { l with threads := l.threads.set i p }

/-- A thread looks whether it can read, and sleeps if it cannot. -/
def tryShared (l : SharedLock) (i : Nat) : SharedLock :=
  if l.writer || l.waitingWriters != 0 then l.setPhase i (.asleep .shared false)
  else { l with readers := l.readers + 1 }.setPhase i (.holding .shared)

/-- A thread that is counted as waiting looks whether it can write. The last
waiting writer notifies the others before it takes the lock. -/
def tryExclusive (l : SharedLock) (i : Nat) : SharedLock :=
  if l.writer || l.readers != 0 then l.setPhase i (.asleep .exclusive false)
  else
    let left := { l with waitingWriters := l.waitingWriters - 1 }
    let left := if left.waitingWriters == 0 then left.notifyAll else left
    { left with writer := true }.setPhase i (.holding .exclusive)

def acquire (l : SharedLock) (mode : Mode) (i : Nat) : SharedLock :=
  match mode with
  | .shared => l.tryShared i
  | .exclusive => { l with waitingWriters := l.waitingWriters + 1 }.tryExclusive i

/-- A sleeping thread looks again. -/
def wake (l : SharedLock) (i : Nat) : SharedLock :=
  match l.threads[i]? with
  | some (.asleep .shared _) => l.tryShared i
  | some (.asleep .exclusive _) => l.tryExclusive i
  | _ => l

/-- A sleeping thread gives up, since an exception has ended its wait. The last waiting
writer notifies the others before it goes. -/
def abandon (l : SharedLock) (i : Nat) : SharedLock :=
  match l.threads[i]? with
  | some (.asleep .shared _) => l.setPhase i .idle
  | some (.asleep .exclusive _) =>
    let left := { l with waitingWriters := l.waitingWriters - 1 }
    let left := if left.waitingWriters == 0 then left.notifyAll else left
    left.setPhase i .idle
  | _ => l

def releaseShared (l : SharedLock) : Except LockFault SharedLock :=
  if l.readers == 0 then .error .notShared
  else
    let left := { l with readers := l.readers - 1 }
    .ok (if left.readers == 0 then left.notifyAll else left)

def releaseExclusive (l : SharedLock) : Except LockFault SharedLock :=
  if l.writer then .ok ({ l with writer := false }.notifyAll) else .error .notExclusive

def release (l : SharedLock) : Mode → Except LockFault SharedLock
  | .shared => l.releaseShared
  | .exclusive => l.releaseExclusive

def blocked (l : SharedLock) (mode : Mode) : Nat :=
  l.threads.countP fun
    | .asleep m _ => m == mode
    | _ => false

end SharedLock
end SandboxProfile.Lock
