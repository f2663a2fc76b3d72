import SandboxProfile.Proofs.Lock.Run
import Mathlib.Data.List.Count

/-! Mutual exclusion. Readers and a writer never hold the lock together, and the
counters of the lock say exactly who holds it and who waits for it, as long as only
holders release. -/
namespace SandboxProfile.Lock

namespace SharedLock

/-- Readers and a writer are apart, and every thread that waits to write is counted. -/
structure Exclusive (l : SharedLock) : Prop where
  apart : l.writer = true → l.readers = 0
  counted : l.waitingWriters = l.blocked .exclusive

theorem Exclusive.enter {l : SharedLock} {i : Nat} (mode : Mode) (sound : l.Exclusive)
    (present : i < l.threads.length) (awake : ¬l.Sleeps i) : (l.enter mode i).Exclusive where
  apart := sound.apart
  counted := by
    have counted := sound.counted
    rw [blocked_enter present awake]
    cases mode with
    | shared => exact counted
    | exclusive => exact congrArg (· + 1) counted

/-- The counter of writers is lowered by a thread that it counts, so never below zero. -/
theorem Exclusive.look {l next : SharedLock} {mode : Mode} {i : Nat} {notified : Bool}
    (sound : l.Exclusive) (sleeping : l.threads[i]? = some (.asleep mode notified))
    (look : Look l i mode next) : next.Exclusive := by
  have counted := sound.counted
  cases look with
  | readerWaits _ =>
    refine ⟨sound.apart, ?_⟩
    have same := blocked_setPhase sleeping (.asleep .shared false) .exclusive
    exact counted.trans same.symm
  | reads unwritten _ =>
    refine ⟨fun written => absurd (unwritten.symm.trans written) Bool.false_ne_true, ?_⟩
    have same := countP_awaits_set sleeping (.holding .shared) .exclusive
    exact counted.trans same.symm
  | writerWaits _ =>
    refine ⟨sound.apart, ?_⟩
    have same := blocked_setPhase sleeping (.asleep .exclusive false) .exclusive
    exact counted.trans (Nat.succ.inj same.symm)
  | writes _ unread =>
    refine ⟨fun _ => unread, ?_⟩
    obtain ⟨told, there⟩ := threadsAtEntry_sleeping sleeping
    have fewer := countP_awaits_set there (.holding .exclusive) .exclusive
    rw [blocked_threadsAtEntry] at fewer
    simp only [Phase.awaits_asleep, Phase.awaits_holding, beq_self_eq_true, Bool.toNat_true,
      Bool.toNat_false] at fewer
    simp only [blocked_eq]
    omega

theorem Exclusive.release {l left : SharedLock} {mode : Mode} (sound : l.Exclusive)
    (released : l.release mode = .ok left) : left.Exclusive := by
  have same := blocked_release released .exclusive
  rcases release_eq_ok released with ⟨-, held, rfl⟩ | ⟨-, -, rfl⟩
  · refine ⟨fun written => ?_, sound.counted.trans same.symm⟩
    have unread := sound.apart written
    omega
  · exact ⟨fun written => absurd written Bool.false_ne_true, sound.counted.trans same.symm⟩

theorem exclusive_invariant : Invariant Exclusive where
  fresh threads := by
    refine ⟨fun written => absurd written Bool.false_ne_true, ?_⟩
    simp [fresh, blocked_eq, List.countP_replicate]
  join sound := ⟨sound.apart, sound.counted.trans blocked_join.symm⟩
  enter := Exclusive.enter
  look := Exclusive.look
  release := Exclusive.release

end SharedLock

namespace Session

/-- The lock counts what its holders have. -/
structure Accounted (s : Session) : Prop where
  readers : s.lock.readers = s.holders .shared
  writer : s.lock.writer.toNat = s.holders .exclusive

theorem Accounted.granted {l next : SharedLock} {holdings : List (Nat × Mode)} {mode : Mode}
    {i : Nat} {notified : Bool} (accounted : Accounted ⟨l, holdings⟩)
    (sleeping : l.threads[i]? = some (.asleep mode notified)) (look : l.Look i mode next) :
    Accounted (Session.granted ⟨l, holdings⟩ mode i next) := by
  obtain ⟨present, -⟩ := List.getElem?_eq_some_iff.mp sleeping
  obtain ⟨readers, writer⟩ := accounted
  cases look with
  | readerWaits _ | writerWaits _ =>
    rw [granted_of_asleep (SharedLock.threads_setPhase_self present _)]
    exact ⟨readers, writer⟩
  | reads _ _ =>
    have more : i < ({ l with readers := l.readers + 1 } : SharedLock).threads.length := present
    rw [granted_of_holding (SharedLock.threads_setPhase_self more _)]
    exact ⟨by simpa [holders] using readers, by simpa [holders] using writer⟩
  | writes unwritten _ =>
    obtain ⟨told, there⟩ := SharedLock.threadsAtEntry_sleeping sleeping
    obtain ⟨room, -⟩ := List.getElem?_eq_some_iff.mp there
    rw [unwritten] at writer
    rw [granted_of_holding (List.getElem?_set_self room)]
    exact ⟨by simpa [holders] using readers, by simpa [holders] using writer.symm⟩

theorem Accounted.release {s : Session} {left : SharedLock} {mode : Mode} {i : Nat}
    (accounted : s.Accounted) (owned : (i, mode) ∈ s.holdings)
    (released : s.lock.release mode = .ok left) :
    Accounted ⟨left, s.holdings.erase (i, mode)⟩ := by
  obtain ⟨readers, writer⟩ := accounted
  rcases SharedLock.release_eq_ok released with ⟨rfl, -, rfl⟩ | ⟨rfl, written, rfl⟩
  · refine ⟨?_, ?_⟩
    · simp only [holders, List.countP_erase, owned, beq_self_eq_true, and_self, ↓reduceIte] at *
      rw [readers]
    · simpa [holders, List.countP_erase] using writer
  · refine ⟨?_, ?_⟩
    · simpa [holders, List.countP_erase] using readers
    · rw [written] at writer
      simp only [holders, List.countP_erase, owned, beq_self_eq_true, and_self, ↓reduceIte] at *
      rw [← writer]
      rfl

/-- What is released was held, so each holding is counted once. -/
theorem Accounted.step {s t : Session} (accounted : s.Accounted) (step : Step .holders s t) :
    t.Accounted := by
  cases step with
  | join => exact ⟨accounted.readers, accounted.writer⟩
  | @acquire i mode present awake =>
    rw [SharedLock.acquire_eq present]
    have entered : Accounted ⟨s.lock.enter mode i, s.holdings⟩ :=
      ⟨accounted.readers, accounted.writer⟩
    have sleeping := SharedLock.enter_sleeping (l := s.lock) present mode
    exact entered.granted sleeping (SharedLock.wake_look sleeping)
  | wake sleeping => exact accounted.granted sleeping (SharedLock.wake_look sleeping)
  | release _ owned released => exact accounted.release (owned rfl) released
  | refused _ => exact accounted

/-- By induction on the run. -/
theorem Reached.accounted {s : Session} (reached : s.Reached .holders) : s.Accounted := by
  induction reached with
  | start threads => exact ⟨rfl, rfl⟩
  | step _ step ih => exact ih.step step

/-- Readers and a writer exclude each other whoever releases. A release of what is not
held fails and changes nothing, and one that succeeds takes away one reader that there
is. The waiting writers are counted. If only holders release, the lock counts them: its
readers are the shared holdings, and it has a writer exactly if there is an exclusive
holding, which is then the only one. -/
theorem mutual_exclusion {discipline : Discipline} {s : Session}
    (reached : s.Reached discipline) :
    ¬(s.lock.writer = true ∧ 0 < s.lock.readers) ∧
    (s.lock.readers = 0 ↔ s.lock.call (.release .shared) = (s.lock, some .notShared)) ∧
    (s.lock.writer = false ↔ s.lock.call (.release .exclusive) = (s.lock, some .notExclusive)) ∧
    (∀ left, s.lock.release .shared = .ok left → left.readers + 1 = s.lock.readers) ∧
    s.lock.waitingWriters = s.lock.blocked .exclusive ∧
    (discipline = .holders →
      s.lock.readers = s.holders .shared ∧ s.holders .exclusive ≤ 1 ∧
        (s.lock.writer = true ↔ s.holders .exclusive = 1)) := by
  have sound := reached.keeps SharedLock.exclusive_invariant
  refine ⟨?_, ?_, ?_, ?_, sound.counted, ?_⟩
  · rintro ⟨written, read⟩
    have unread := sound.apart written
    omega
  · by_cases unread : s.lock.readers = 0 <;>
      simp [SharedLock.call, SharedLock.release, SharedLock.releaseShared, unread]
  · cases written : s.lock.writer <;>
      simp [SharedLock.call, SharedLock.release, SharedLock.releaseExclusive, written]
  · intro left released
    rcases SharedLock.release_eq_ok released with ⟨-, held, rfl⟩ | ⟨other, -⟩
    · exact Nat.sub_add_cancel held
    · contradiction
  · rintro rfl
    obtain ⟨readers, writer⟩ := reached.accounted
    refine ⟨readers, ?_, ?_⟩
    · rw [← writer]
      exact Bool.toNat_le _
    · rw [← writer]
      exact Bool.toNat_eq_one.symm

/-- A reader holds the lock, a writer waits for it, and a reader waits for the writer. -/
def queuedSession : Session :=
  ⟨⟨1, false, 1, [.holding .shared, .asleep .exclusive false, .asleep .shared false]⟩,
    [(0, .shared)]⟩

theorem queuedSession_reached : queuedSession.Reached .holders := by
  have reading : Reached .holders ⟨⟨1, false, 0, [.holding .shared, .idle, .idle]⟩, [(0, .shared)]⟩ :=
    .step (.start 3) (.acquire (i := 0) .shared (by decide) (by decide))
  have waiting : Reached .holders ⟨⟨1, false, 1, [.holding .shared, .asleep .exclusive false, .idle]⟩,
      [(0, .shared)]⟩ :=
    .step reading (.acquire (i := 1) .exclusive (by decide) (by decide))
  exact .step waiting (.acquire (i := 2) .shared (by decide) (by decide))

theorem mutual_exclusion_queued :
    queuedSession.Reached .holders ∧
      ¬(queuedSession.lock.writer = true ∧ 0 < queuedSession.lock.readers) ∧
      queuedSession.lock.call (.release .exclusive) =
        (queuedSession.lock, some .notExclusive) ∧
      queuedSession.lock.waitingWriters = queuedSession.lock.blocked .exclusive ∧
      queuedSession.lock.readers = queuedSession.holders .shared ∧
      queuedSession.holders .exclusive ≤ 1 := by
  obtain ⟨apart, -, refused, -, waiting, accounted⟩ := mutual_exclusion queuedSession_reached
  obtain ⟨readers, single, -⟩ := accounted rfl
  exact ⟨queuedSession_reached, apart, refused.mp rfl, waiting, readers, single⟩

end Session
end SandboxProfile.Lock
