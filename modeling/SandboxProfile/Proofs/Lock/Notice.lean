import SandboxProfile.Proofs.Lock.Exclusion

/-! Notices. A thread that sleeps without one has a reason to sleep: what it waits for
is still taken. So a lock that nobody holds has told somebody, and whoever was told of
those that can have it gets it. -/
namespace SandboxProfile.Lock

namespace SharedLock

/-- Whoever sleeps without a notice would find the lock taken. -/
structure Attended (l : SharedLock) : Prop where
  readers : .asleep .shared false ∈ l.threads → l.writer = true ∨ 0 < l.waitingWriters
  writers : .asleep .exclusive false ∈ l.threads → l.writer = true ∨ 0 < l.readers

theorem not_mem_map_notify (mode : Mode) (ts : List Phase) :
    .asleep mode false ∉ ts.map Phase.notify := by
  intro member
  obtain ⟨p, -, told⟩ := List.mem_map.mp member
  cases p <;> simp [Phase.notify] at told

theorem Attended.fresh (threads : Nat) : (fresh threads).Attended := by
  constructor <;> intro member <;> cases List.eq_of_mem_replicate member

theorem Attended.join {l : SharedLock} (attended : l.Attended) : l.join.Attended := by
  have old {mode : Mode} (member : .asleep mode false ∈ l.join.threads) :
      .asleep mode false ∈ l.threads := by
    simpa [SharedLock.join] using member
  exact ⟨fun member => attended.readers (old member), fun member => attended.writers (old member)⟩

theorem Attended.enter {l : SharedLock} {i : Nat} (mode : Mode) (attended : l.Attended) :
    (l.enter mode i).Attended := by
  have old {m : Mode} (member : .asleep m false ∈ (l.enter mode i).threads) :
      .asleep m false ∈ l.threads := by
    rcases List.mem_or_eq_of_mem_set member with old | new
    · exact old
    · simp at new
  refine ⟨fun member => ?_, fun member => attended.writers (old member)⟩
  rcases attended.readers (old member) with written | wanted
  · exact .inl written
  · cases mode with
    | shared => exact .inr wanted
    | exclusive => exact .inr (Nat.succ_pos _)

/-- A thread goes to sleep for the reason it has found, and the others keep theirs. -/
theorem Attended.look {l next : SharedLock} {mode : Mode} {i : Nat} (attended : l.Attended)
    (look : Look l i mode next) : next.Attended := by
  cases look with
  | readerWaits taken =>
    refine ⟨fun _ => taken, fun member => ?_⟩
    rcases List.mem_or_eq_of_mem_set member with old | new
    · exact attended.writers old
    · simp at new
  | reads _ _ =>
    refine ⟨fun member => ?_, fun _ => .inr (Nat.succ_pos _)⟩
    rcases List.mem_or_eq_of_mem_set member with old | new
    · exact attended.readers old
    · simp at new
  | writerWaits taken =>
    refine ⟨fun member => ?_, fun _ => taken⟩
    rcases List.mem_or_eq_of_mem_set member with old | new
    · exact attended.readers old
    · simp at new
  | writes _ _ => exact ⟨fun _ => .inl rfl, fun _ => .inl rfl⟩

/-- A release that leaves the lock free tells everybody. -/
theorem Attended.release {l left : SharedLock} {mode : Mode} (attended : l.Attended)
    (released : l.release mode = .ok left) : left.Attended := by
  rcases release_eq_ok released with ⟨-, held, rfl⟩ | ⟨-, -, rfl⟩
  · by_cases last : l.readers = 1
    · simp only [last, ↓reduceIte]
      exact ⟨fun member => absurd member (not_mem_map_notify _ _),
        fun member => absurd member (not_mem_map_notify _ _)⟩
    · simp only [last, ↓reduceIte]
      refine ⟨attended.readers, fun _ => .inr ?_⟩
      dsimp only
      omega
  · exact ⟨fun member => absurd member (not_mem_map_notify _ _),
      fun member => absurd member (not_mem_map_notify _ _)⟩

theorem attended_invariant : Invariant Attended where
  fresh := Attended.fresh
  join := Attended.join
  enter mode attended _ _ := attended.enter mode
  look attended _ look := attended.look look
  release := Attended.release

/-- A thread that waits for a free lock, and behind no writer unless it is one, gets it. -/
theorem Look.obtains {l next : SharedLock} {mode : Mode} {i : Nat} {notified : Bool}
    (sleeping : l.threads[i]? = some (.asleep mode notified)) (look : Look l i mode next)
    (unread : l.readers = 0) (unwritten : l.writer = false)
    (first : mode = .shared → l.waitingWriters = 0) :
    next.threads[i]? = some (.holding mode) ∧ next.HeldIn mode := by
  obtain ⟨present, -⟩ := List.getElem?_eq_some_iff.mp sleeping
  cases look with
  | readerWaits taken =>
    have unwanted := first rfl
    simp [unwritten, unwanted] at taken
  | reads _ _ => exact ⟨by simp [setPhase, present], Nat.succ_pos _⟩
  | writerWaits taken => simp [unwritten, unread] at taken
  | writes _ _ =>
    obtain ⟨told, there⟩ := threadsAtEntry_sleeping sleeping
    obtain ⟨room, -⟩ := List.getElem?_eq_some_iff.mp there
    exact ⟨List.getElem?_set_self room, rfl⟩

/-- Somebody sleeps who can have a free lock: a writer if any writer waits, otherwise
a reader. -/
theorem exists_candidate {l : SharedLock} (sound : l.Exclusive) {j : Nat} (asleep : l.Sleeps j) :
    ∃ (i : Nat) (mode : Mode) (notified : Bool),
      l.threads[i]? = some (.asleep mode notified) ∧
        (mode = .shared → l.waitingWriters = 0) := by
  have counted := sound.counted
  by_cases wanted : 0 < l.waitingWriters
  · obtain ⟨notified, member⟩ := exists_asleep_of_blocked (counted ▸ wanted)
    obtain ⟨i, found⟩ := List.getElem?_of_mem member
    exact ⟨i, .exclusive, notified, found, nofun⟩
  · obtain ⟨mode, notified, found⟩ := asleep
    exact ⟨j, mode, notified, found, fun _ => by omega⟩

end SharedLock

namespace Session

/-- A lock that nobody holds, by its own counters or by the account of its holders. -/
def Unheld (discipline : Discipline) (s : Session) : Prop :=
  s.lock.readers = 0 ∧ s.lock.writer = false ∨ discipline = .holders ∧ s.holdings = []

theorem Reached.free {discipline : Discipline} {s : Session} (reached : s.Reached discipline)
    (unheld : s.Unheld discipline) : s.lock.readers = 0 ∧ s.lock.writer = false := by
  rcases unheld with free | ⟨rfl, none⟩
  · exact free
  · obtain ⟨readers, writer⟩ := reached.accounted
    rw [holders, none] at readers writer
    exact ⟨readers, by simpa using writer⟩

/-- No notice is lost. A reader sleeps without a notice only while somebody writes or
waits to write, a writer only while somebody writes or reads. Where nobody holds the
lock and somebody waits for it, somebody who waits has been told, and gets the lock with
the next step. -/
theorem no_notice_lost {discipline : Discipline} {s : Session} (reached : s.Reached discipline) :
    (∀ i : Nat, s.lock.threads[i]? = some (.asleep .shared false) →
      s.lock.writer = true ∨ 0 < s.lock.waitingWriters) ∧
    (∀ i : Nat, s.lock.threads[i]? = some (.asleep .exclusive false) →
      s.lock.writer = true ∨ 0 < s.lock.readers) ∧
    (s.Unheld discipline → (∃ i, s.lock.Sleeps i) →
      ∃ (i : Nat) (mode : Mode), s.lock.threads[i]? = some (.asleep mode true) ∧
        (s.lock.wake i).threads[i]? = some (.holding mode) ∧ (s.lock.wake i).HeldIn mode) := by
  have attended := reached.keeps SharedLock.attended_invariant
  refine ⟨fun i found => ?_, fun i found => ?_, ?_⟩
  · exact attended.readers (List.mem_of_getElem? found)
  · exact attended.writers (List.mem_of_getElem? found)
  · rintro unheld ⟨j, asleep⟩
    obtain ⟨unread, unwritten⟩ := reached.free unheld
    obtain ⟨i, mode, notified, found, first⟩ :=
      SharedLock.exists_candidate (reached.keeps SharedLock.exclusive_invariant) asleep
    have obtained := (SharedLock.wake_look found).obtains found unread unwritten first
    -- Without a notice the candidate would have a reason to sleep, and there is none.
    cases notified with
    | true => exact ⟨i, mode, found, obtained⟩
    | false =>
      have member := List.mem_of_getElem? found
      cases mode with
      | shared =>
        have reason := attended.readers member
        have unwanted := first rfl
        simp [unwritten, unwanted] at reason
      | exclusive =>
        have reason := attended.writers member
        simp [unwritten, unread] at reason

/-- The reader has gone; the writer and the reader behind it have been told. -/
def freedSession : Session :=
  ⟨⟨0, false, 1, [.holding .shared, .asleep .exclusive true, .asleep .shared true]⟩, []⟩

theorem freedSession_reached : freedSession.Reached .holders := by
  have awake : ¬queuedSession.lock.Sleeps 0 := by decide
  have owned : (0, .shared) ∈ queuedSession.holdings := by decide
  exact .step queuedSession_reached (.release awake (fun _ => owned) rfl)

theorem no_notice_lost_freed :
    freedSession.Reached .holders ∧ freedSession.Unheld .holders ∧
      (∃ i, freedSession.lock.Sleeps i) ∧
      ∃ (i : Nat) (mode : Mode), freedSession.lock.threads[i]? = some (.asleep mode true) ∧
        (freedSession.lock.wake i).threads[i]? = some (.holding mode) ∧
        (freedSession.lock.wake i).HeldIn mode := by
  have unheld : freedSession.Unheld .holders := .inl ⟨rfl, rfl⟩
  have asleep : ∃ i, freedSession.lock.Sleeps i := ⟨1, by decide⟩
  exact ⟨freedSession_reached, unheld, asleep,
    (no_notice_lost freedSession_reached).2.2 unheld asleep⟩

end Session
end SandboxProfile.Lock
