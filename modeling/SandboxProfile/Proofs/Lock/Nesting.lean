import SandboxProfile.Lock.Scope
import SandboxProfile.Proofs.Lock.Run
import SandboxProfile.Proofs.Procedure

/-! Scopes release on every way out. A scope is a procedure that takes the lock, does its work and
gives the lock back, also while an exception is on its way; each time it records that it has
passed its edge. In a single thread whose scopes fit into each other nobody ever waits and no
release is refused, so that these procedures come to the same as the runs of scopes. -/
namespace SandboxProfile.Lock
open Procedure

/-! ### Scopes as procedures -/

/-- How a procedure ends before its time: by an exception of its own, by a wait that nobody can
end, or by a release of what is not held. -/
inductive Halt where
  | raised
  | blocked
  | refused
  deriving DecidableEq

/-- A lock, and the edges of scopes that have been passed so far. -/
structure Stage where
  lock : AnyLock
  record : List ScopeEvent

namespace AnyLock

/-- Whether the thread that takes the lock would wait for it. -/
def blocks (l : AnyLock) (mode : Mode) : Bool :=
  match l with
  | .shared lock => (lock.call (.acquire mode)).1.Sleeps lock.threads.length
  | .serial lock => lock.locked

def refuses (l : AnyLock) (mode : Mode) : Bool :=
  match l with
  | .shared lock => (lock.call (.release mode)).2.isSome
  | .serial lock => !lock.locked

end AnyLock

def Stage.pass (s : Stage) (kind : ScopeEventKind) (lock : AnyLock) : Stage :=
  ⟨lock, s.record ++ [⟨kind, lock⟩]⟩

def takeLock (mode : Mode) : ExceptT Halt (StateM Stage) Unit := do
  let s ← getThe Stage
  if s.lock.blocks mode then throw .blocked
  else modifyThe Stage fun s => s.pass (.entered mode) (s.lock.enter mode)

def giveBack (mode : Mode) : ExceptT Halt (StateM Stage) Unit := do
  let s ← getThe Stage
  if s.lock.refuses mode then throw .refused
  else modifyThe Stage fun s => s.pass (.exited mode) (s.lock.leave mode)

/-- An exception goes on outwards when the lock has been given back. A wait without an end never
gets there. -/
def goOutwards (mode : Mode) : Halt → ExceptT Halt (StateM Stage) Unit
  | .blocked => throw .blocked
  | halt => do
    giveBack mode
    throw halt

/-- A scope: whatever ends the work in it, the lock is given back. -/
def within (mode : Mode) (work : ExceptT Halt (StateM Stage) Unit) :
    ExceptT Halt (StateM Stage) Unit := do
  takeLock mode
  tryCatch work (goOutwards mode)
  giveBack mode

mutual
def Scope.procedure : Scope → ExceptT Halt (StateM Stage) Unit
  | .scope mode body raises =>
    within mode do
      Scope.procedures body
      if raises then throw .raised

def Scope.procedures : List Scope → ExceptT Halt (StateM Stage) Unit
  | [] => pure ()
  | s :: rest => do
    Scope.procedure s
    Scope.procedures rest
end

/-- Outermost scopes, where the exception of one does not keep the others from being entered. -/
def Scope.outermost : List Scope → ExceptT Halt (StateM Stage) Unit
  | [] => pure ()
  | s :: rest => do
    tryCatch (Scope.procedure s) fun halt =>
      if halt = .raised then pure () else throw halt
    Scope.outermost rest

/-! ### Scopes that fit -/

/-- Whether a scope can be entered within others: readers within readers, and nothing else. -/
def admits (serial : Bool) (around : List Mode) : Mode → Bool
  | .shared => if serial then around.isEmpty else !around.contains .exclusive
  | .exclusive => around.isEmpty

mutual
def Scope.fits (serial : Bool) (around : List Mode) : Scope → Bool
  | .scope mode body _ => admits serial around mode && Scope.allFit serial (mode :: around) body

def Scope.allFit (serial : Bool) (around : List Mode) : List Scope → Bool
  | [] => true
  | s :: rest => Scope.fits serial around s && Scope.allFit serial around rest
end

/-- The lock is held for the scopes around, and by nobody else. -/
structure SharedLock.Held (l : SharedLock) (around : List Mode) : Prop where
  readers : l.readers = around.count .shared
  writer : l.writer = around.contains .exclusive
  unwanted : l.waitingWriters = 0
  awake : ∀ p ∈ l.threads, p.isAsleep = false

/-- Either lock, held for the scopes around. -/
def AnyLock.HeldFor (serial : Bool) (around : List Mode) : AnyLock → Prop
  | .shared l => serial = false ∧ l.Held around
  | .serial l => serial = true ∧ l.locked = !around.isEmpty

/-- Edges that are passed within the scopes around. Every scope that is entered is left once, and
those within it before; at each edge the lock is held for the scopes that are open there. -/
inductive Nested (serial : Bool) : List Mode → List ScopeEvent → Prop where
  | nil {around : List Mode} : Nested serial around []
  | scope {around : List Mode} {mode : Mode} {inside outside : AnyLock}
      {inner rest : List ScopeEvent} (held : inside.HeldFor serial (mode :: around))
      (within : Nested serial (mode :: around) inner) (left : outside.HeldFor serial around)
      (behind : Nested serial around rest) :
      Nested serial around (⟨.entered mode, inside⟩ :: (inner ++ ⟨.exited mode, outside⟩ :: rest))

theorem Nested.append {serial : Bool} {around : List Mode} {first second : List ScopeEvent}
    (nested : Nested serial around first) (others : Nested serial around second) :
    Nested serial around (first ++ second) := by
  induction nested with
  | nil => exact others
  | scope held within left _ _ ih =>
    rw [List.cons_append, List.append_assoc, List.cons_append]
    exact .scope held within left (ih others)

/-! ### The lock at an edge -/

namespace SharedLock
variable {l : SharedLock} {around : List Mode} {mode : Mode}

theorem settle_eq_self (awake : ∀ p ∈ l.threads, p.isAsleep = false) : l.settle = l := by
  have untold : l.threads.findIdx? Phase.isNotified = none := by
    rw [List.findIdx?_eq_none_iff]
    intro p member
    have up := awake p member
    cases p with
    | asleep _ _ => contradiction
    | idle => rfl
    | holding _ => rfl
  rw [settle, untold]

/-- There is nobody to be told. -/
theorem map_notify_eq_self (awake : ∀ p ∈ l.threads, p.isAsleep = false) :
    l.threads.map Phase.notify = l.threads := by
  refine (List.map_congr_left fun p member => ?_).trans (List.map_id _)
  have up := awake p member
  cases p with
  | asleep _ _ => contradiction
  | idle => rfl
  | holding _ => rfl

theorem awake_append_holding (awake : ∀ p ∈ l.threads, p.isAsleep = false) (mode : Mode) :
    ∀ p ∈ l.threads ++ [.holding mode], p.isAsleep = false := by
  intro p member
  rcases List.mem_append.mp member with old | new
  · exact awake p old
  · rw [List.mem_singleton.mp new]
    rfl

theorem Held.reads (held : l.Held around) (unwritten : around.contains .exclusive = false) :
    l.call (.acquire .shared) =
      (⟨l.readers + 1, false, 0, l.threads ++ [.holding .shared]⟩, none) := by
  have free := held.writer.trans unwritten
  have settled := settle_eq_self
    (l := ⟨l.readers + 1, false, 0, l.threads ++ [.holding .shared]⟩)
    (awake_append_holding held.awake .shared)
  simpa [call, acquire, tryShared, free, held.unwanted, setPhase] using settled

theorem Held.writes (held : l.Held []) : l.call (.acquire .exclusive) =
    (⟨0, true, 0, l.threads ++ [.holding .exclusive]⟩, none) := by
  have unread : l.readers = 0 := held.readers
  have unwritten : l.writer = false := held.writer
  have same := map_notify_eq_self held.awake
  have settled := settle_eq_self (l := ⟨0, true, 0, l.threads ++ [.holding .exclusive]⟩)
    (awake_append_holding held.awake .exclusive)
  simpa [call, acquire, tryExclusive, unread, unwritten, held.unwanted, setPhase, notifyAll, same]
    using settled

/-- Who enters a scope that fits gets the lock at once. -/
theorem Held.call_acquire (held : l.Held around) (admitted : admits false around mode = true) :
    ∃ next, l.call (.acquire mode) = (next, none) ∧ next.Held (mode :: around) ∧
      next.threads = l.threads ++ [.holding mode] := by
  cases mode with
  | shared =>
    have unwritten : around.contains .exclusive = false := by
      rw [admits, if_neg Bool.false_ne_true, Bool.not_eq_true'] at admitted
      exact admitted
    refine ⟨_, held.reads unwritten, ⟨?_, ?_, rfl, awake_append_holding held.awake _⟩, rfl⟩
    · rw [List.count_cons_self, ← held.readers]
    · rw [List.contains_cons, unwritten]
      rfl
  | exclusive =>
    obtain rfl : around = [] := List.isEmpty_iff.mp admitted
    exact ⟨_, held.writes, ⟨rfl, rfl, rfl, awake_append_holding held.awake _⟩, rfl⟩

theorem call_release_of_awake {left : SharedLock} (released : l.release mode = .ok left)
    (awake : ∀ p ∈ left.threads, p.isAsleep = false) : l.call (.release mode) = (left, none) := by
  rw [call, released]
  exact congrArg (·, none) (settle_eq_self awake)

/-- Who leaves a scope that fits gives back what it holds. -/
theorem Held.call_release (held : l.Held (mode :: around))
    (admitted : admits false around mode = true) :
    ∃ next, l.call (.release mode) = (next, none) ∧ next.Held around := by
  have same := map_notify_eq_self held.awake
  cases mode with
  | shared =>
    have readers : l.readers = around.count .shared + 1 := held.readers.trans List.count_cons_self
    have released : l.release .shared =
        .ok ⟨around.count .shared, l.writer, l.waitingWriters, l.threads⟩ := by
      simp [release, releaseShared, readers, notifyAll, same]
    have called := call_release_of_awake released held.awake
    exact ⟨_, called, rfl, held.writer, held.unwanted, held.awake⟩
  | exclusive =>
    obtain rfl : around = [] := List.isEmpty_iff.mp admitted
    have written : l.writer = true := held.writer
    have released : l.release .exclusive =
        .ok ⟨l.readers, false, l.waitingWriters, l.threads⟩ := by
      simp [release, releaseExclusive, written, notifyAll, same]
    have called := call_release_of_awake released held.awake
    exact ⟨_, called, held.readers, rfl, held.unwanted, held.awake⟩

end SharedLock

namespace AnyLock
variable {serial : Bool} {around : List Mode} {mode : Mode} {l : AnyLock}

theorem HeldFor.enter (held : l.HeldFor serial around)
    (admitted : admits serial around mode = true) :
    l.blocks mode = false ∧ (l.enter mode).HeldFor serial (mode :: around) := by
  cases l with
  | shared lock =>
    obtain ⟨rfl, held⟩ := held
    obtain ⟨next, called, inside, grown⟩ := held.call_acquire admitted
    have last : next.threads[lock.threads.length]? = some (.holding mode) := by simp [grown]
    simp only [blocks, AnyLock.enter, called, HeldFor, true_and]
    refine ⟨?_, inside⟩
    rw [decide_eq_false_iff_not]
    rintro ⟨_, _, asleep⟩
    simp [last] at asleep
  | serial lock =>
    obtain ⟨rfl, locked⟩ := held
    have none : around.isEmpty = true := by cases mode <;> exact admitted
    rw [none] at locked
    exact ⟨locked, rfl, rfl⟩

theorem HeldFor.leave (held : l.HeldFor serial (mode :: around))
    (admitted : admits serial around mode = true) :
    l.refuses mode = false ∧ (l.leave mode).HeldFor serial around := by
  cases l with
  | shared lock =>
    obtain ⟨rfl, held⟩ := held
    obtain ⟨next, called, outside⟩ := held.call_release admitted
    simp only [refuses, AnyLock.leave, called, HeldFor, true_and]
    exact ⟨rfl, outside⟩
  | serial lock =>
    obtain ⟨rfl, locked⟩ := held
    have none : around.isEmpty = true := by cases mode <;> exact admitted
    exact ⟨congrArg (!·) locked, rfl, by rw [none]; rfl⟩

end AnyLock

/-! ### The run of a scope -/

/-- How a run ends that may raise an exception. -/
def ended (raised : Bool) : Except Halt Unit := if raised then .error .raised else .ok ()

def ScopeEvent.enters (e : ScopeEvent) : Bool :=
  match e.kind with
  | .entered _ => true
  | _ => false

/-- A procedure comes to the same as a run of scopes. The edges that it passes are nested, and it
enters the scopes that the run enters. -/
structure Follows (serial : Bool) (around : List Mode) (work : ExceptT Halt (StateM Stage) Unit)
    (l : AnyLock) (run : ScopeRun) (edges : List ScopeEvent) : Prop where
  runs : ∀ record, on work ⟨l, record⟩ = (ended run.raised, ⟨run.lock, record ++ edges⟩)
  nested : Nested serial around edges
  entered : edges.filter ScopeEvent.enters = run.events.filter ScopeEvent.enters
  held : run.lock.HeldFor serial around

theorem on_takeLock {s : Stage} {mode : Mode} (free : s.lock.blocks mode = false) :
    on (takeLock mode) s = (.ok (), s.pass (.entered mode) (s.lock.enter mode)) := by
  rw [takeLock, on_bind, on_get]
  dsimp only
  rw [free]
  rfl

theorem on_giveBack {s : Stage} {mode : Mode} (held : s.lock.refuses mode = false) :
    on (giveBack mode) s = (.ok (), s.pass (.exited mode) (s.lock.leave mode)) := by
  rw [giveBack, on_bind, on_get]
  dsimp only
  rw [held]
  rfl

theorem on_goOutwards {s : Stage} {mode : Mode} (held : s.lock.refuses mode = false) :
    on (goOutwards mode .raised) s =
      (.error .raised, s.pass (.exited mode) (s.lock.leave mode)) := by
  rw [goOutwards, on_bind, on_giveBack held]
  · rfl
  · exact Halt.noConfusion

/-- The lock is given back behind the work, however that ends. -/
theorem on_within {s t : Stage} {mode : Mode} {work : ExceptT Halt (StateM Stage) Unit}
    {raised : Bool} (free : s.lock.blocks mode = false)
    (done : on work (s.pass (.entered mode) (s.lock.enter mode)) = (ended raised, t))
    (held : t.lock.refuses mode = false) :
    on (within mode work) s = (ended raised, t.pass (.exited mode) (t.lock.leave mode)) := by
  rw [within, on_bind, on_takeLock free]
  dsimp only
  rw [on_bind, on_tryCatch, done]
  cases raised with
  | false => exact on_giveBack held
  | true =>
    dsimp only [ended]
    rw [if_pos rfl]
    dsimp only
    rw [on_goOutwards held]

theorem on_body {body : List Scope} {s t : Stage} {raised : Bool}
    (done : on (Scope.procedures body) s = (ended raised, t)) (raises : Bool) :
    on (do Scope.procedures body; if raises then throw .raised) s =
      (ended (raised || raises), t) := by
  rw [on_bind, done]
  cases raised with
  | true => rfl
  | false => cases raises <;> rfl

/-- What is noted of a scope: that it is entered, what happens in it, and that it is left unless an
exception comes out of it. -/
theorem run_scope (l : AnyLock) (mode : Mode) (body : List Scope) (raises : Bool) :
    let inner := Scope.runList (l.enter mode) body
    let run := Scope.run l (.scope mode body raises)
    run.raised = (inner.raised || raises) ∧ run.lock = inner.lock.leave mode ∧
      run.events.filter ScopeEvent.enters =
        ⟨.entered mode, l.enter mode⟩ :: inner.events.filter ScopeEvent.enters := by
  intro inner run
  have same : run = if inner.raised || raises then _ else _ := rfl
  cases raised : inner.raised || raises with
  | true =>
    rw [same, if_pos raised]
    exact ⟨rfl, rfl, rfl⟩
  | false =>
    rw [same, if_neg (Bool.eq_false_iff.mp raised)]
    refine ⟨rfl, rfl, ?_⟩
    rw [List.filter_append]
    exact List.append_nil _

variable {serial : Bool}

theorem Follows.scope {around : List Mode} {mode : Mode} {l : AnyLock} {body : List Scope}
    {edges : List ScopeEvent} (raises : Bool) (held : l.HeldFor serial around)
    (admitted : admits serial around mode = true)
    (inner : Follows serial (mode :: around) (Scope.procedures body) (l.enter mode)
      (Scope.runList (l.enter mode) body) edges) :
    ∃ edges, Follows serial around (Scope.procedure (.scope mode body raises)) l
      (Scope.run l (.scope mode body raises)) edges := by
  obtain ⟨free, inside⟩ := held.enter admitted
  obtain ⟨owned, outside⟩ := inner.held.leave admitted
  obtain ⟨raised, lock, entered⟩ := run_scope l mode body raises
  -- The edges are those within between the two of the scope, whatever the body ends with.
  refine ⟨_, ?_, .scope inside inner.nested outside .nil, ?_, lock ▸ outside⟩
  · intro record
    have done := on_body (inner.runs (record ++ [⟨.entered mode, l.enter mode⟩])) raises
    rw [Scope.procedure, on_within (s := ⟨l, record⟩) free done owned, raised, lock]
    simp [Stage.pass]
  · rw [entered, ← inner.entered, List.filter_cons_of_pos rfl, List.filter_append]
    exact congrArg _ (List.append_nil _)

/-- Behind a scope that raises no other is entered. -/
theorem Follows.raises {around : List Mode} {l : AnyLock} {s : Scope} {edges : List ScopeEvent}
    (first : Follows serial around s.procedure l (s.run l) edges) (rest : List Scope)
    (raised : (s.run l).raised = true) :
    Follows serial around (Scope.procedures (s :: rest)) l (Scope.runList l (s :: rest)) edges := by
  have same : Scope.runList l (s :: rest) = s.run l := by
    rw [Scope.runList]
    exact if_pos raised
  rw [same]
  refine ⟨fun record => ?_, first.nested, first.entered, first.held⟩
  rw [Scope.procedures, on_bind, first.runs, raised]
  rfl

theorem Follows.goesOn {around : List Mode} {l : AnyLock} {s : Scope} {rest : List Scope}
    {edges later : List ScopeEvent} (first : Follows serial around s.procedure l (s.run l) edges)
    (raised : (s.run l).raised = false)
    (behind : Follows serial around (Scope.procedures rest) (s.run l).lock
      (Scope.runList (s.run l).lock rest) later) :
    Follows serial around (Scope.procedures (s :: rest)) l (Scope.runList l (s :: rest))
      (edges ++ later) := by
  have same : Scope.runList l (s :: rest) =
      ⟨(s.run l).events ++ (Scope.runList (s.run l).lock rest).events,
        (Scope.runList (s.run l).lock rest).lock, (Scope.runList (s.run l).lock rest).raised⟩ := by
    rw [Scope.runList]
    exact if_neg (Bool.eq_false_iff.mp raised)
  rw [same]
  refine ⟨fun record => ?_, first.nested.append behind.nested, ?_, behind.held⟩
  · rw [Scope.procedures, on_bind, first.runs, raised, ← List.append_assoc]
    exact behind.runs (record ++ edges)
  · rw [List.filter_append, List.filter_append, first.entered, behind.entered]

mutual
/-- By induction on the scopes; each begins and ends with the lock held for those around it. -/
theorem Scope.follows : ∀ (s : Scope) {around : List Mode} {l : AnyLock},
    l.HeldFor serial around → s.fits serial around = true →
    ∃ edges, Follows serial around s.procedure l (s.run l) edges
  | .scope mode body raises, around, l, held, fit => by
    obtain ⟨admitted, fit⟩ := Bool.and_eq_true_iff.mp fit
    obtain ⟨edges, inner⟩ := Scope.allFollow body (held.enter admitted).2 fit
    exact inner.scope raises held admitted

theorem Scope.allFollow : ∀ (scopes : List Scope) {around : List Mode} {l : AnyLock},
    l.HeldFor serial around → Scope.allFit serial around scopes = true →
    ∃ edges, Follows serial around (Scope.procedures scopes) l (Scope.runList l scopes) edges
  | [], around, l, held, _ => by
    refine ⟨[], ?_, .nil, rfl, held⟩
    intro record
    rw [List.append_nil]
    rfl
  | s :: rest, around, l, held, fit => by
    obtain ⟨fit, others⟩ := Bool.and_eq_true_iff.mp fit
    obtain ⟨edges, first⟩ := Scope.follows s held fit
    cases raised : (s.run l).raised with
    | true => exact ⟨edges, first.raises rest raised⟩
    | false =>
      obtain ⟨later, behind⟩ := Scope.allFollow rest first.held others
      exact ⟨edges ++ later, first.goesOn raised behind⟩
end

/-- An exception that comes out of an outermost scope stops there. -/
theorem on_caught {s : Scope} {t u : Stage} {raised : Bool}
    (done : on s.procedure t = (ended raised, u)) :
    on (tryCatch s.procedure fun halt => if halt = .raised then pure () else throw halt) t =
      (.ok (), u) := by
  rw [on_tryCatch, done]
  cases raised <;> rfl

/-- By induction on the scopes; the lock is free between them. -/
theorem Scope.outermost_follow {scopes : List Scope} {l : AnyLock} (free : l.HeldFor serial [])
    (fit : Scope.allFit serial [] scopes = true) :
    ∃ edges last, Follows serial [] (Scope.outermost scopes) l
      ⟨Scope.runOutermost l scopes, last, false⟩ edges := by
  induction scopes generalizing l with
  | nil =>
    refine ⟨[], l, ?_, .nil, rfl, free⟩
    intro record
    rw [List.append_nil]
    rfl
  | cons s rest ih =>
    obtain ⟨fit, others⟩ := Bool.and_eq_true_iff.mp fit
    obtain ⟨edges, first⟩ := Scope.follows s free fit
    obtain ⟨later, last, behind⟩ := ih first.held others
    have nested := first.nested.append behind.nested
    refine ⟨edges ++ later, last, fun record => ?_, nested, ?_, behind.held⟩
    · rw [Scope.outermost, on_bind, on_caught (first.runs record), ← List.append_assoc]
      exact behind.runs (record ++ edges)
    · have unnoted : (if (s.run l).raised then [⟨.raised, (s.run l).lock⟩] else []).filter
          ScopeEvent.enters = [] := by
        cases (s.run l).raised <;> rfl
      rw [Scope.runOutermost, List.filter_append, List.filter_append, List.filter_append, unnoted,
        List.append_nil, first.entered, behind.entered]

theorem heldFor_fresh (threads : Nat) : (AnyLock.shared (.fresh threads)).HeldFor false [] := by
  refine ⟨rfl, rfl, rfl, rfl, fun p member => ?_⟩
  rw [List.eq_of_mem_replicate member]
  rfl

theorem heldFor_unlocked : (AnyLock.serial ⟨false⟩).HeldFor true [] := ⟨rfl, rfl⟩

/-- Every scope that is entered is left once, those within it before, and at the end the lock is
free. -/
structure Released (serial : Bool) (l : AnyLock) (scopes : List Scope) : Prop where
  /-- An exception ends the whole run. -/
  together : ∃ edges, Follows serial [] (Scope.procedures scopes) l (Scope.runList l scopes) edges
  /-- An exception ends only the outermost scope that it comes from. -/
  apart : ∃ edges last, Follows serial [] (Scope.outermost scopes) l
    ⟨Scope.runOutermost l scopes, last, false⟩ edges

/-- Scopes that fit into each other release a lock that was free. -/
theorem scopes_release {l : AnyLock} {scopes : List Scope} (free : l.HeldFor serial [])
    (fit : Scope.allFit serial [] scopes = true) : Released serial l scopes where
  together := Scope.allFollow scopes free fit
  apart := Scope.outermost_follow free fit

/-- Readers within a reader, the second of which raises, and a writer behind them. -/
def nestedScopes : List Scope :=
  [.scope .shared [.scope .shared [] false, .scope .shared [.scope .shared [] true] false] false,
    .scope .exclusive [] true]

theorem scopes_release_raising :
    ((AnyLock.shared (.fresh 0)).HeldFor false [] ∧
      Scope.allFit false [] nestedScopes = true ∧
      Released false (.shared (.fresh 0)) nestedScopes) ∧
    Released true (.serial ⟨false⟩) [.scope .exclusive [] true, .scope .shared [] false] := by
  have fit : Scope.allFit false [] nestedScopes = true := by decide
  refine ⟨⟨heldFor_fresh 0, fit, scopes_release (heldFor_fresh 0) fit⟩, ?_⟩
  exact scopes_release heldFor_unlocked (by decide)

end SandboxProfile.Lock
