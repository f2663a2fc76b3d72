import SandboxProfile.Proofs.Lock.Notice
import Mathlib.Logic.Relation
import Mathlib.Order.RelClasses
import Mathlib.Order.WellFounded

/-! Settlement. Threads that have been told look one after another, in any order, until
nobody is left who has been told. This ends, and in whatever order it goes, the lock
goes to the same number of readers or to one writer. -/
namespace SandboxProfile.Lock

/-- What can be seen of a lock: who holds it, and how many threads wait for it. -/
structure Tally where
  readers : Nat
  writer : Bool
  waitingReaders : Nat
  waitingWriters : Nat
  deriving Repr, DecidableEq

namespace Tally

/-- Whom a lock goes to in the end: all waiting readers if no writer waits, one waiting
writer if nobody holds the lock, and otherwise nobody else. -/
def settled (t : Tally) : Tally :=
  if t.writer then t
  else if t.waitingWriters = 0 then ⟨t.readers + t.waitingReaders, false, 0, 0⟩
  else if t.readers = 0 then ⟨0, true, t.waitingReaders, t.waitingWriters - 1⟩
  else t

@[simp] theorem settled_written (readers w n : Nat) :
    settled ⟨readers, true, w, n⟩ = ⟨readers, true, w, n⟩ := rfl

@[simp] theorem settled_unwanted (readers w : Nat) :
    settled ⟨readers, false, w, 0⟩ = ⟨readers + w, false, 0, 0⟩ := rfl

@[simp] theorem settled_free (w n : Nat) :
    settled ⟨0, false, w, n + 1⟩ = ⟨0, true, w, n⟩ := rfl

@[simp] theorem settled_read (readers w n : Nat) :
    settled ⟨readers + 1, false, w, n + 1⟩ = ⟨readers + 1, false, w, n + 1⟩ := rfl

/-- After a call has settled. Who calls is counted with those that wait, and a release
that is refused changes nothing. -/
def after (t : Tally) : SharedLock.Call → Tally
  | .acquire .shared => { t with waitingReaders := t.waitingReaders + 1 }.settled
  | .acquire .exclusive => { t with waitingWriters := t.waitingWriters + 1 }.settled
  | .release .shared => if t.readers = 0 then t else { t with readers := t.readers - 1 }.settled
  | .release .exclusive => if t.writer then { t with writer := false }.settled else t

/-- The tallies after each of a series of calls. -/
def course (t : Tally) : List SharedLock.Call → List Tally
  | [] => []
  | c :: rest => t.after c :: course (t.after c) rest

end Tally

namespace SharedLock
variable {l m next : SharedLock} {i : Nat} {mode : Mode}

def tally (l : SharedLock) : Tally :=
  ⟨l.readers, l.writer, l.blocked .shared, l.blocked .exclusive⟩

/-- A thread that has been told looks. -/
def Resumes (l next : SharedLock) : Prop :=
  ∃ (i : Nat) (mode : Mode), l.threads[i]? = some (.asleep mode true) ∧ next = l.wake i

/-- Nobody can resume. -/
def Quiet (l : SharedLock) : Prop := ∀ next, ¬Resumes l next

/-- One sequence of threads that resume, as long as there are any. -/
def Settles (l m : SharedLock) : Prop := Relation.ReflTransGen Resumes l m ∧ m.Quiet

theorem closer_wellFounded : WellFounded Closer := by
  have lexicographic : WellFounded (Prod.Lex (· < · : Nat → Nat → Prop) (· < ·)) :=
    WellFounded.prod_lex Nat.lt_wfRel.wf Nat.lt_wfRel.wf
  refine Subrelation.wf (fun closer => ?_)
    (InvImage.wf (fun l : SharedLock => (l.asleep, l.notified)) lexicographic)
  rcases closer with fewer | ⟨same, fewer⟩
  · exact .left _ _ fewer
  · rw [InvImage, same]
    exact .right _ fewer

theorem Resumes.closer (resumes : Resumes l next) : Closer next l := by
  obtain ⟨i, mode, told, rfl⟩ := resumes
  obtain ⟨present, phase⟩ := List.getElem?_eq_some_iff.mp told
  exact closer_wake present (by rw [phase]; rfl)

/-- Every sequence of threads that resume is finite. -/
theorem not_resumes_forever (run : Nat → SharedLock) : ¬∀ n, Resumes (run n) (run (n + 1)) := by
  intro forever
  have : IsWellFounded SharedLock Closer := ⟨closer_wellFounded⟩
  obtain ⟨n, stuck⟩ := WellFounded.not_rel_apply_succ (r := Closer) run
  exact stuck (forever n).closer

theorem asleep_of_isNotified {p : Phase} (told : p.isNotified = true) :
    ∃ mode, p = .asleep mode true := by
  cases p with
  | asleep mode notified => exact ⟨mode, by rw [show notified = true from told]⟩
  | idle => contradiction
  | holding mode => contradiction

theorem resumes_of_isNotified {p : Phase} (found : l.threads[i]? = some p)
    (told : p.isNotified = true) : Resumes l (l.wake i) := by
  obtain ⟨mode, rfl⟩ := asleep_of_isNotified told
  exact ⟨i, mode, found, rfl⟩

theorem quiet_iff : l.Quiet ↔ ∀ p ∈ l.threads, p.isNotified = false := by
  constructor
  · intro quiet p member
    obtain ⟨i, found⟩ := List.getElem?_of_mem member
    exact Bool.eq_false_iff.mpr fun told => quiet _ (resumes_of_isNotified found told)
  · rintro untold next ⟨i, mode, told, -⟩
    exact Bool.noConfusion (untold _ (List.mem_of_getElem? told))

/-- To wake always the first who has been told is one way to settle. -/
theorem settles_settle (l : SharedLock) : l.Settles l.settle := by
  induction l using settle.induct with
  | case1 l none =>
    have untold : ∀ p ∈ l.threads, p.isNotified = false := by
      simpa [List.findIdx?_eq_none_iff] using none
    rw [settle, none]
    exact ⟨.refl, quiet_iff.mpr untold⟩
  | case2 l i first ih =>
    obtain ⟨present, told, -⟩ := List.findIdx?_eq_some_iff_getElem.mp first
    have resumes := resumes_of_isNotified (List.getElem?_eq_getElem present) told
    rw [settle, first]
    exact ⟨.head resumes ih.1, ih.2⟩

/-- Everything that is known of a lock in a run. -/
def Sound (l : SharedLock) : Prop := l.Exclusive ∧ l.Attended

theorem sound_invariant : Invariant Sound := exclusive_invariant.and attended_invariant

theorem tally_setPhase_asleep {notified told : Bool}
    (sleeping : l.threads[i]? = some (.asleep mode notified)) :
    (l.setPhase i (.asleep mode told)).tally = l.tally := by
  have readers := blocked_setPhase sleeping (.asleep mode told) .shared
  have writers := blocked_setPhase sleeping (.asleep mode told) .exclusive
  rw [tally, tally, Nat.add_right_cancel readers, Nat.add_right_cancel writers]
  rfl

/-- A look leaves the tally as it is, or one reader more has the lock, or one writer. -/
theorem Look.tally_cases {notified : Bool} (sound : l.Exclusive)
    (sleeping : l.threads[i]? = some (.asleep mode notified)) (look : Look l i mode next) :
    next.tally = l.tally ∨
      (∃ readers w, l.tally = ⟨readers, false, w + 1, 0⟩ ∧
        next.tally = ⟨readers + 1, false, w, 0⟩) ∨
      ∃ w n, l.tally = ⟨0, false, w, n + 1⟩ ∧ next.tally = ⟨0, true, w, n⟩ := by
  cases look with
  | readerWaits _ => exact .inl (tally_setPhase_asleep sleeping)
  | writerWaits _ => exact .inl (tally_setPhase_asleep sleeping)
  | reads unwritten unwanted =>
    have none : l.blocked .exclusive = 0 := sound.counted.symm.trans unwanted
    have fewer := countP_awaits_set sleeping (.holding .shared) .shared
    have same := countP_awaits_set sleeping (.holding .shared) .exclusive
    refine .inr (.inl ⟨l.readers, (l.threads.set i (.holding .shared)).countP (Phase.awaits .shared),
      ?_, ?_⟩)
    · rw [tally, unwritten, none]
      exact congrArg (Tally.mk _ _ · _) fewer.symm
    · rw [tally, writer_setPhase, unwritten]
      exact congrArg (Tally.mk _ _ _ ·) (same.trans none)
  | writes unwritten unread =>
    obtain ⟨told, there⟩ := threadsAtEntry_sleeping sleeping
    have same := countP_awaits_set there (.holding .exclusive) .shared
    have fewer := countP_awaits_set there (.holding .exclusive) .exclusive
    rw [blocked_threadsAtEntry] at same fewer
    refine .inr (.inr ⟨l.blocked .shared,
      (l.threadsAtEntry.set i (.holding .exclusive)).countP (Phase.awaits .exclusive), ?_, ?_⟩)
    · rw [tally, unwritten, unread]
      exact congrArg (Tally.mk _ _ _ ·) fewer.symm
    · rw [tally, unread]
      exact congrArg (Tally.mk _ _ · _) same

/-- One look does not change whom the lock goes to in the end. -/
theorem settled_look {notified : Bool} (sound : l.Exclusive)
    (sleeping : l.threads[i]? = some (.asleep mode notified)) (look : Look l i mode next) :
    next.tally.settled = l.tally.settled := by
  rcases look.tally_cases sound sleeping with same | ⟨readers, w, before, after⟩ |
      ⟨w, n, before, after⟩
  · rw [same]
  · rw [before, after, Tally.settled_unwanted, Tally.settled_unwanted, Nat.add_right_comm,
      Nat.add_assoc]
  · rw [before, after, Tally.settled_free, Tally.settled_written]

/-- Where nobody can resume, the lock has gone where it goes. -/
theorem settled_of_quiet (sound : l.Sound) (quiet : l.Quiet) : l.tally.settled = l.tally := by
  obtain ⟨⟨-, counted⟩, attended⟩ := sound
  have untold {m : Mode} (waiting : 0 < l.blocked m) : .asleep m false ∈ l.threads := by
    obtain ⟨notified, member⟩ := exists_asleep_of_blocked waiting
    have phase : notified = false := quiet_iff.mp quiet _ member
    exact phase ▸ member
  cases written : l.writer with
  | true => simp [Tally.settled, tally, written]
  | false =>
    by_cases unwanted : l.blocked .exclusive = 0
    · have nobody : l.blocked .shared = 0 := by
        by_contra waiting
        have reason := attended.readers (untold (Nat.pos_of_ne_zero waiting))
        simp [written, counted, unwanted] at reason
      simp [Tally.settled, tally, written, unwanted, nobody]
    · have read : l.readers ≠ 0 := by
        have reason := attended.writers (untold (Nat.pos_of_ne_zero unwanted))
        simpa [written, Nat.pos_iff_ne_zero] using reason
      simp [Tally.settled, tally, written, unwanted, read]

/-- By induction on the sequence. -/
theorem tally_of_settles (sound : l.Sound) (settles : l.Settles m) :
    m.tally = l.tally.settled := by
  obtain ⟨sequence, quiet⟩ := settles
  induction sequence using Relation.ReflTransGen.head_induction_on with
  | refl => exact (settled_of_quiet sound quiet).symm
  | head resumes _ ih =>
    obtain ⟨i, mode, told, rfl⟩ := resumes
    rw [ih (sound_invariant.wake sound told), settled_look sound.1 told (wake_look told)]

theorem Sound.settles (sound : l.Sound) (settles : l.Settles m) : m.Sound := by
  obtain ⟨sequence, -⟩ := settles
  induction sequence using Relation.ReflTransGen.head_induction_on with
  | refl => exact sound
  | head resumes _ ih =>
    obtain ⟨i, mode, told, rfl⟩ := resumes
    exact ih (sound_invariant.wake sound told)

/-- Calls one after another, with the tally after each of them. Before the next call the
threads that have been told resume, in any order, until nobody can. -/
inductive Plays : SharedLock → List Call → List Tally → Prop where
  | done (l : SharedLock) : Plays l [] []
  | join {l : SharedLock} {calls : List Call} {tallies : List Tally}
      (others : Plays l.join calls tallies) : Plays l calls tallies
  | acquire {l m : SharedLock} {mode : Mode} {i : Nat} {calls : List Call} {tallies : List Tally}
      (present : i < l.threads.length) (awake : ¬l.Sleeps i)
      (settles : (l.acquire mode i).Settles m) (others : Plays m calls tallies) :
      Plays l (.acquire mode :: calls) (m.tally :: tallies)
  | release {l left m : SharedLock} {mode : Mode} {calls : List Call} {tallies : List Tally}
      (released : l.release mode = .ok left) (settles : left.Settles m)
      (others : Plays m calls tallies) : Plays l (.release mode :: calls) (m.tally :: tallies)
  | refused {l : SharedLock} {mode : Mode} {fault : LockFault} {calls : List Call}
      {tallies : List Tally} (failed : l.release mode = .error fault)
      (others : Plays l calls tallies) : Plays l (.release mode :: calls) (l.tally :: tallies)

/-- Who calls waits, has been told, and looks first. -/
theorem settles_enter (present : i < l.threads.length) (settles : (l.acquire mode i).Settles m) :
    (l.enter mode i).Settles m := by
  refine ⟨.head ⟨i, mode, enter_sleeping present mode, ?_⟩ settles.1, settles.2⟩
  rw [acquire_eq present]

theorem tally_enter (present : i < l.threads.length) (awake : ¬l.Sleeps i) :
    (l.enter mode i).tally.settled = l.tally.after (.acquire mode) := by
  rw [tally, blocked_enter present awake, blocked_enter present awake]
  cases mode <;> rfl

theorem tally_release {left : SharedLock} (released : l.release mode = .ok left) :
    left.tally.settled = l.tally.after (.release mode) := by
  rw [tally, blocked_release released, blocked_release released]
  rcases release_eq_ok released with ⟨rfl, held, rfl⟩ | ⟨rfl, written, rfl⟩
  · have read : l.readers ≠ 0 := Nat.ne_of_gt held
    simp [Tally.after, tally, read]
  · simp [Tally.after, tally, written]

theorem tally_refused {fault : LockFault} (failed : l.release mode = .error fault) :
    l.tally.after (.release mode) = l.tally := by
  cases mode with
  | shared =>
    simp only [release, releaseShared] at failed
    split at failed
    · next unread =>
      have none : l.readers = 0 := by simpa using unread
      simp [Tally.after, tally, none]
    · contradiction
  | exclusive =>
    simp only [release, releaseExclusive] at failed
    split at failed
    · contradiction
    · next unwritten => simp [Tally.after, tally, unwritten]

/-- By induction on the calls: each of them settles to what the tally before it says. -/
theorem Plays.tallies_eq {calls : List Call} {tallies : List Tally} (plays : Plays l calls tallies)
    (sound : l.Sound) : tallies = l.tally.course calls := by
  induction plays with
  | done => rfl
  | @join l _ _ _ ih =>
    have same : l.join.tally = l.tally := by rw [tally, blocked_join, blocked_join]; rfl
    rw [ih (sound_invariant.join sound), same]
  | @acquire _ _ mode _ _ _ present awake settles _ ih =>
    have entered := sound_invariant.enter mode sound present awake
    have tally := tally_of_settles entered (settles_enter present settles)
    rw [tally_enter present awake] at tally
    rw [ih (entered.settles (settles_enter present settles)), tally, Tally.course]
  | release released settles _ ih =>
    have left := sound_invariant.release sound released
    have tally := tally_of_settles left settles
    rw [tally_release released] at tally
    rw [ih (left.settles settles), tally, Tally.course]
  | refused failed _ ih => rw [ih sound, Tally.course, tally_refused failed]

/-- The calls of a history, each by a thread of its own, are played in one way. -/
theorem plays_history (l : SharedLock) (calls : List Call) :
    Plays l calls ((l.history calls).map (·.1.tally)) := by
  induction calls generalizing l with
  | nil => exact .done l
  | cons c rest ih =>
    rw [history, List.map_cons]
    cases c with
    | acquire mode =>
      have present : l.threads.length < l.join.threads.length := by simp [join]
      have awake : ¬l.join.Sleeps l.threads.length := by simp [Sleeps, join]
      exact .join (.acquire present awake (settles_settle _) (ih _))
    | release mode =>
      cases released : l.release mode with
      | ok left =>
        simp only [call, released]
        exact .release released (settles_settle left) (ih _)
      | error fault =>
        simp only [call, released]
        exact .refused released (ih l)

theorem plays_iff {calls : List Call} {tallies : List Tally} (sound : l.Sound) :
    Plays l calls tallies ↔ tallies = l.tally.course calls := by
  constructor
  · exact fun plays => plays.tallies_eq sound
  · rintro rfl
    rw [← (plays_history l calls).tallies_eq sound]
    exact plays_history l calls

end SharedLock

namespace Session

/-- A lock settles to one outcome. Threads that have been told cannot resume for ever,
they come to an end, and every end has the one tally that the lock settles to. A lock
that nobody holds goes to one of the waiting writers, and if there is none, to all
waiting readers. So what is seen after each of a series of calls depends on the calls
only. -/
theorem settles_to_one {discipline : Discipline} {s : Session} (reached : s.Reached discipline) :
    (¬∃ run : Nat → SharedLock, run 0 = s.lock ∧ ∀ n, (run n).Resumes (run (n + 1))) ∧
    s.lock.Settles s.lock.settle ∧
    (∀ m, s.lock.Settles m → m.tally = s.lock.tally.settled) ∧
    (s.Unheld discipline → s.lock.tally.settled =
      if 0 < s.lock.blocked .exclusive then
        ⟨0, true, s.lock.blocked .shared, s.lock.blocked .exclusive - 1⟩
      else ⟨s.lock.blocked .shared, false, 0, 0⟩) ∧
    ∀ calls : List SharedLock.Call,
      (s.lock.history calls).map (·.1.tally) = s.lock.tally.course calls ∧
        ∀ tallies, s.lock.Plays calls tallies ↔ tallies = s.lock.tally.course calls := by
  have sound := reached.keeps SharedLock.sound_invariant
  refine ⟨?_, SharedLock.settles_settle s.lock, fun m settles => ?_, fun unheld => ?_, ?_⟩
  · rintro ⟨run, -, forever⟩
    exact SharedLock.not_resumes_forever run forever
  · exact SharedLock.tally_of_settles sound settles
  · obtain ⟨unread, unwritten⟩ := reached.free unheld
    rw [SharedLock.tally, unread, unwritten]
    cases s.lock.blocked .exclusive with
    | zero => simp
    | succ n => simp
  · intro calls
    have played := SharedLock.plays_history s.lock calls
    exact ⟨played.tallies_eq sound, fun tallies => SharedLock.plays_iff sound⟩

/-- From the lock that the reader has left, and from the one before, whatever the order
in which the others look. -/
theorem settles_to_one_queued :
    freedSession.Reached .holders ∧ queuedSession.Reached .holders ∧
      (∀ m, freedSession.lock.Settles m → m.tally = ⟨0, true, 1, 0⟩) ∧
      ∀ tallies, queuedSession.lock.Plays
        [.release .shared, .acquire .shared, .release .exclusive] tallies ↔
          tallies = [⟨0, true, 1, 0⟩, ⟨0, true, 2, 0⟩, ⟨2, false, 0, 0⟩] :=
  ⟨freedSession_reached, queuedSession_reached, (settles_to_one freedSession_reached).2.2.1,
    ((settles_to_one queuedSession_reached).2.2.2.2 _).2⟩

end Session
end SandboxProfile.Lock
