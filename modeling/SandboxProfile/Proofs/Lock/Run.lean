import SandboxProfile.Lock.Settle

/-! Runs of a shared lock. Threads come in, call and wake in any order, one atomic step
at a time. Beside the lock an account is kept of who has obtained it and not given it
back. A thread that calls is one that waits and has been told to look, so that what a
sleeping thread finds is all there is to know about acquisitions. -/
namespace SandboxProfile.Lock

namespace Phase

/-- Whether a thread is blocked in a mode. -/
def awaits (mode : Mode) : Phase → Bool
  | .asleep m _ => m == mode
  | _ => false

@[simp] theorem awaits_asleep (mode m : Mode) (notified : Bool) :
    (asleep m notified).awaits mode = (m == mode) := rfl

@[simp] theorem awaits_holding (mode m : Mode) : (holding m).awaits mode = false := rfl

@[simp] theorem awaits_idle (mode : Mode) : idle.awaits mode = false := rfl

@[simp] theorem awaits_notify (mode : Mode) (p : Phase) : p.notify.awaits mode = p.awaits mode := by
  cases p <;> rfl

end Phase

namespace SharedLock
variable {l : SharedLock} {i : Nat} {mode : Mode} {p : Phase}

@[simp] theorem readers_setPhase : (l.setPhase i p).readers = l.readers := rfl

@[simp] theorem writer_setPhase : (l.setPhase i p).writer = l.writer := rfl

@[simp] theorem waitingWriters_setPhase :
    (l.setPhase i p).waitingWriters = l.waitingWriters := rfl

theorem threads_setPhase_self (present : i < l.threads.length) (p : Phase) :
    (l.setPhase i p).threads[i]? = some p := by
  simp [setPhase, present]

/-- One more thread, which has not called yet. -/
def join (l : SharedLock) : SharedLock := { l with threads := l.threads ++ [.idle] }

def Sleeps (l : SharedLock) (i : Nat) : Prop :=
  ∃ mode notified, l.threads[i]? = some (.asleep mode notified)

instance (l : SharedLock) (i : Nat) : Decidable (l.Sleeps i) :=
  decidable_of_iff ((l.threads[i]?.any Phase.isAsleep) = true) <| by
    unfold Sleeps
    rcases l.threads[i]? with - | (_ | _ | _) <;> simp [Phase.isAsleep]

/-- The lock is held in a mode. -/
def HeldIn (l : SharedLock) : Mode → Prop
  | .shared => 0 < l.readers
  | .exclusive => l.writer = true

/-- A thread that calls is counted with those that wait, and is about to look. -/
def enter (l : SharedLock) (mode : Mode) (i : Nat) : SharedLock :=
  { l with waitingWriters := match mode with
      | .shared => l.waitingWriters
      | .exclusive => l.waitingWriters + 1 }.setPhase i (.asleep mode true)

/-- The threads while the last waiting writer takes the lock, or one of several. -/
def threadsAtEntry (l : SharedLock) : List Phase :=
  if l.waitingWriters - 1 = 0 then l.threads.map Phase.notify else l.threads

/-- What a thread that waits in a mode finds when it looks, and the lock after that. -/
inductive Look (l : SharedLock) (i : Nat) : Mode → SharedLock → Prop where
  | readerWaits (taken : l.writer = true ∨ 0 < l.waitingWriters) :
      Look l i .shared (l.setPhase i (.asleep .shared false))
  | reads (unwritten : l.writer = false) (unwanted : l.waitingWriters = 0) :
      Look l i .shared ({ l with readers := l.readers + 1 }.setPhase i (.holding .shared))
  | writerWaits (taken : l.writer = true ∨ 0 < l.readers) :
      Look l i .exclusive (l.setPhase i (.asleep .exclusive false))
  | writes (unwritten : l.writer = false) (unread : l.readers = 0) :
      Look l i .exclusive ⟨l.readers, true, l.waitingWriters - 1,
        l.threadsAtEntry.set i (.holding .exclusive)⟩

theorem tryShared_look : Look l i .shared (l.tryShared i) := by
  unfold tryShared
  split
  · next taken =>
    refine .readerWaits ?_
    simpa [Nat.pos_iff_ne_zero] using taken
  · next free =>
    simp only [Bool.or_eq_true, bne_iff_ne, ne_eq, not_or, Bool.not_eq_true,
      Decidable.not_not] at free
    exact .reads free.1 free.2

theorem tryExclusive_look : Look l i .exclusive (l.tryExclusive i) := by
  unfold tryExclusive
  split
  · next taken =>
    refine .writerWaits ?_
    simpa [Nat.pos_iff_ne_zero] using taken
  · next free =>
    simp only [Bool.or_eq_true, bne_iff_ne, ne_eq, not_or, Bool.not_eq_true,
      Decidable.not_not] at free
    obtain ⟨unwritten, unread⟩ := free
    have looked := Look.writes (i := i) unwritten unread
    rw [threadsAtEntry] at looked
    by_cases last : l.waitingWriters - 1 = 0
    · simpa [last, notifyAll, setPhase] using looked
    · simpa [last, setPhase] using looked

theorem wake_look {notified : Bool} (sleeping : l.threads[i]? = some (.asleep mode notified)) :
    Look l i mode (l.wake i) := by
  unfold wake
  rw [sleeping]
  cases mode with
  | shared => exact tryShared_look
  | exclusive => exact tryExclusive_look

theorem enter_sleeping (present : i < l.threads.length) (mode : Mode) :
    (l.enter mode i).threads[i]? = some (.asleep mode true) :=
  threads_setPhase_self present _

/-- To call is to enter and to look. -/
theorem acquire_eq (present : i < l.threads.length) :
    l.acquire mode i = (l.enter mode i).wake i := by
  rw [wake, enter_sleeping present mode]
  cases mode with
  | shared => simp [acquire, tryShared, enter, setPhase]
  | exclusive =>
    simp only [acquire, tryExclusive, enter, setPhase, notifyAll]
    by_cases taken : (l.writer || l.readers != 0) = true
    · simp [taken]
    · by_cases last : l.waitingWriters = 0 <;> simp [taken, last, List.map_set]

theorem blocked_eq : l.blocked mode = l.threads.countP (Phase.awaits mode) := rfl

theorem exists_asleep_of_blocked (blocked : 0 < l.blocked mode) :
    ∃ notified, .asleep mode notified ∈ l.threads := by
  rw [blocked_eq, List.countP_pos_iff] at blocked
  obtain ⟨p, member, awaits⟩ := blocked
  cases p with
  | asleep m notified =>
    obtain rfl : m = mode := by simpa using awaits
    exact ⟨notified, member⟩
  | idle => contradiction
  | holding m => contradiction

theorem countP_awaits_notify (ts : List Phase) :
    (ts.map Phase.notify).countP (Phase.awaits mode) = ts.countP (Phase.awaits mode) := by
  rw [List.countP_map]
  congr 1
  funext p
  exact Phase.awaits_notify mode p

/-- One thread gets from phase `p` to phase `q`. -/
theorem countP_awaits_set {ts : List Phase} (found : ts[i]? = some p) (q : Phase) (mode : Mode) :
    (ts.set i q).countP (Phase.awaits mode) + (p.awaits mode).toNat =
      ts.countP (Phase.awaits mode) + (q.awaits mode).toNat := by
  obtain ⟨present, rfl⟩ := List.getElem?_eq_some_iff.mp found
  rw [List.countP_set present]
  have counted (h : ts[i].awaits mode = true) : 0 < ts.countP (Phase.awaits mode) :=
    List.countP_pos_iff.mpr ⟨ts[i], List.getElem_mem present, h⟩
  cases before : ts[i].awaits mode with
  | false => cases q.awaits mode <;> simp
  | true =>
    have positive := counted before
    cases q.awaits mode
    · simp only [Bool.false_eq_true, ↓reduceIte, Bool.toNat_true, Bool.toNat_false]
      omega
    · simp only [↓reduceIte, Bool.toNat_true]
      omega

/-- One thread more that is blocked in a mode, if it was not blocked and is to be. -/
theorem blocked_setPhase (found : l.threads[i]? = some p) (q : Phase) (mode : Mode) :
    (l.setPhase i q).blocked mode + (p.awaits mode).toNat =
      l.blocked mode + (q.awaits mode).toNat :=
  countP_awaits_set found q mode

@[simp] theorem blocked_join : l.join.blocked mode = l.blocked mode := by
  simp [blocked_eq, join]

theorem blocked_threadsAtEntry :
    l.threadsAtEntry.countP (Phase.awaits mode) = l.blocked mode := by
  unfold threadsAtEntry
  split
  · exact countP_awaits_notify l.threads
  · rfl

theorem threadsAtEntry_sleeping {notified : Bool}
    (sleeping : l.threads[i]? = some (.asleep mode notified)) :
    ∃ told, l.threadsAtEntry[i]? = some (.asleep mode told) := by
  unfold threadsAtEntry
  split
  · exact ⟨true, by simp [sleeping, Phase.notify]⟩
  · exact ⟨notified, sleeping⟩

/-- A thread that does not sleep is not counted among those that do. -/
theorem awaits_of_awake (found : l.threads[i]? = some p) (awake : ¬l.Sleeps i) :
    p.awaits mode = false := by
  cases p with
  | asleep m notified => exact absurd ⟨m, notified, found⟩ awake
  | idle => rfl
  | holding m => rfl

theorem blocked_enter (present : i < l.threads.length) (awake : ¬l.Sleeps i) (m : Mode) :
    (l.enter mode i).blocked m = l.blocked m + (mode == m).toNat := by
  have found := List.getElem?_eq_getElem present
  have moved := countP_awaits_set found (.asleep mode true) m
  rw [awaits_of_awake found awake] at moved
  exact moved

/-- A release that is allowed lowers what is held; the last one notifies everybody. -/
theorem release_eq_ok {left : SharedLock} (released : l.release mode = .ok left) :
    (mode = .shared ∧ 0 < l.readers ∧ left = ⟨l.readers - 1, l.writer, l.waitingWriters,
        if l.readers = 1 then l.threads.map Phase.notify else l.threads⟩) ∨
      (mode = .exclusive ∧ l.writer = true ∧
        left = ⟨l.readers, false, l.waitingWriters, l.threads.map Phase.notify⟩) := by
  cases mode with
  | shared =>
    refine .inl ⟨rfl, ?_⟩
    simp only [release, releaseShared] at released
    split at released
    · contradiction
    · next held =>
      obtain rfl := Except.ok.inj released
      have positive : 0 < l.readers := Nat.pos_of_ne_zero (by simpa using held)
      refine ⟨positive, ?_⟩
      by_cases last : l.readers = 1
      · simp [last, notifyAll]
      · have others : l.readers - 1 ≠ 0 := by omega
        simp [last, others]
  | exclusive =>
    refine .inr ⟨rfl, ?_⟩
    simp only [release, releaseExclusive] at released
    split at released
    · next held =>
      obtain rfl := Except.ok.inj released
      exact ⟨held, rfl⟩
    · contradiction

theorem blocked_release {left : SharedLock} (released : l.release mode = .ok left) (m : Mode) :
    left.blocked m = l.blocked m := by
  rcases release_eq_ok released with ⟨-, -, rfl⟩ | ⟨-, -, rfl⟩
  · rw [blocked_eq]
    dsimp only
    split
    · exact countP_awaits_notify l.threads
    · rfl
  · exact countP_awaits_notify l.threads

/-- What no step of a lock can break: nobody coming in, nobody calling, nobody looking
and no release. -/
structure Invariant (P : SharedLock → Prop) : Prop where
  fresh : ∀ threads, P (fresh threads)
  join : ∀ {l}, P l → P l.join
  enter : ∀ {l i} (mode : Mode), P l → i < l.threads.length → ¬l.Sleeps i → P (l.enter mode i)
  look : ∀ {l mode i notified next}, P l → l.threads[i]? = some (.asleep mode notified) →
    Look l i mode next → P next
  release : ∀ {l mode left}, P l → l.release mode = .ok left → P left

namespace Invariant
variable {P : SharedLock → Prop}

theorem wake (inv : Invariant P) (holds : P l) {notified : Bool}
    (sleeping : l.threads[i]? = some (.asleep mode notified)) : P (l.wake i) :=
  inv.look holds sleeping (wake_look sleeping)

theorem acquire (inv : Invariant P) (holds : P l) (present : i < l.threads.length)
    (awake : ¬l.Sleeps i) : P (l.acquire mode i) := by
  rw [acquire_eq present]
  exact inv.wake (inv.enter mode holds present awake) (enter_sleeping present mode)

theorem and {Q : SharedLock → Prop} (first : Invariant P) (second : Invariant Q) :
    Invariant fun l => P l ∧ Q l where
  fresh threads := ⟨first.fresh threads, second.fresh threads⟩
  join holds := ⟨first.join holds.1, second.join holds.2⟩
  enter mode holds present awake :=
    ⟨first.enter mode holds.1 present awake, second.enter mode holds.2 present awake⟩
  look holds sleeping look := ⟨first.look holds.1 sleeping look, second.look holds.2 sleeping look⟩
  release holds released := ⟨first.release holds.1 released, second.release holds.2 released⟩

end Invariant
end SharedLock

/-- Who releases: any thread that does not sleep, or only one for what it holds. -/
inductive Discipline where
  | anyone
  | holders

/-- A lock, and every holding that has been obtained and not given back, with its
thread. A thread that has obtained the lock twice has two holdings. -/
structure Session where
  lock : SharedLock
  holdings : List (Nat × Mode)

namespace Session

def start (threads : Nat) : Session := ⟨.fresh threads, []⟩

/-- The number of holdings in a mode. -/
def holders (s : Session) (mode : Mode) : Nat := s.holdings.countP (·.2 == mode)

/-- The account after thread `i` has asked and the lock has become another one. -/
def granted (s : Session) (mode : Mode) (i : Nat) (next : SharedLock) : Session :=
  ⟨next, if next.threads[i]? = some (.holding mode) then (i, mode) :: s.holdings else s.holdings⟩

theorem granted_of_holding {s : Session} {mode : Mode} {i : Nat} {next : SharedLock}
    (obtained : next.threads[i]? = some (.holding mode)) :
    s.granted mode i next = ⟨next, (i, mode) :: s.holdings⟩ := by
  rw [granted, if_pos obtained]

theorem granted_of_asleep {s : Session} {mode : Mode} {i : Nat} {next : SharedLock}
    (asleep : next.threads[i]? = some (.asleep mode false)) :
    s.granted mode i next = ⟨next, s.holdings⟩ := by
  rw [granted, if_neg (by simp [asleep])]

/-- One atomic step of one thread. A sleeping thread may wake with a notice or without;
a thread that does not sleep may call for the lock again while it holds it. -/
inductive Step (discipline : Discipline) : Session → Session → Prop where
  | join (s : Session) : Step discipline s ⟨s.lock.join, s.holdings⟩
  | acquire {s : Session} {i : Nat} (mode : Mode) (present : i < s.lock.threads.length)
      (awake : ¬s.lock.Sleeps i) :
      Step discipline s (s.granted mode i (s.lock.acquire mode i))
  | wake {s : Session} {i : Nat} {mode : Mode} {notified : Bool}
      (sleeping : s.lock.threads[i]? = some (.asleep mode notified)) :
      Step discipline s (s.granted mode i (s.lock.wake i))
  | release {s : Session} {i : Nat} {mode : Mode} {left : SharedLock} (awake : ¬s.lock.Sleeps i)
      (owned : discipline = .holders → (i, mode) ∈ s.holdings)
      (released : s.lock.release mode = .ok left) :
      Step discipline s ⟨left, s.holdings.erase (i, mode)⟩
  | refused {s : Session} {mode : Mode} {fault : LockFault}
      (failed : s.lock.release mode = .error fault) : Step discipline s s

/-- The sessions that steps lead to from a lock that nobody has called for yet. -/
inductive Reached (discipline : Discipline) : Session → Prop where
  | start (threads : Nat) : Reached discipline (start threads)
  | step {s t : Session} : Reached discipline s → Step discipline s t → Reached discipline t

theorem Step.keeps {discipline : Discipline} {s t : Session} {P : SharedLock → Prop}
    (step : Step discipline s t) (inv : SharedLock.Invariant P) (holds : P s.lock) : P t.lock := by
  cases step with
  | join => exact inv.join holds
  | acquire mode present awake => exact inv.acquire holds present awake
  | wake sleeping => exact inv.wake holds sleeping
  | release _ _ released => exact inv.release holds released
  | refused _ => exact holds

/-- By induction on the run. -/
theorem Reached.keeps {discipline : Discipline} {s : Session} {P : SharedLock → Prop}
    (reached : s.Reached discipline) (inv : SharedLock.Invariant P) : P s.lock := by
  induction reached with
  | start threads => exact inv.fresh threads
  | step _ step ih => exact step.keeps inv ih

end Session
end SandboxProfile.Lock
