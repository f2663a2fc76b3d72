import SandboxProfile.Proofs.Lock.Notice
import Mathlib.Logic.Relation

/-! Writers are not overtaken. While a writer waits nobody begins to read, so that it waits only
for those who held the lock before, and whoever obtains the lock in the meantime writes. A
thread may also leave without the lock, when an exception ends its wait. -/
namespace SandboxProfile.Lock

namespace SharedLock
variable {l : SharedLock} {i : Nat} {mode : Mode} {notified : Bool}

theorem abandon_reader (sleeping : l.threads[i]? = some (.asleep .shared notified)) :
    l.abandon i = l.setPhase i .idle := by
  rw [abandon, sleeping]

/-- A writer that gives up tells the others as one that takes the lock does. -/
theorem abandon_writer (sleeping : l.threads[i]? = some (.asleep .exclusive notified)) :
    l.abandon i =
      ⟨l.readers, l.writer, l.waitingWriters - 1, l.threadsAtEntry.set i .idle⟩ := by
  rw [abandon, sleeping]
  unfold threadsAtEntry
  by_cases last : l.waitingWriters - 1 = 0 <;> simp [last, notifyAll, setPhase]

theorem readers_abandon (sleeping : l.threads[i]? = some (.asleep mode notified)) :
    (l.abandon i).readers = l.readers ∧ (l.abandon i).writer = l.writer := by
  cases mode with
  | shared => exact abandon_reader sleeping ▸ ⟨rfl, rfl⟩
  | exclusive => exact abandon_writer sleeping ▸ ⟨rfl, rfl⟩

theorem Exclusive.abandon (sound : l.Exclusive)
    (sleeping : l.threads[i]? = some (.asleep mode notified)) : (l.abandon i).Exclusive := by
  have counted := sound.counted
  cases mode with
  | shared =>
    rw [abandon_reader sleeping]
    have same := blocked_setPhase sleeping .idle .exclusive
    exact ⟨sound.apart, counted.trans same.symm⟩
  | exclusive =>
    rw [abandon_writer sleeping]
    refine ⟨sound.apart, ?_⟩
    obtain ⟨told, there⟩ := threadsAtEntry_sleeping sleeping
    have fewer := countP_awaits_set there .idle .exclusive
    rw [blocked_threadsAtEntry] at fewer
    simp only [Phase.awaits_asleep, Phase.awaits_idle, beq_self_eq_true, Bool.toNat_true,
      Bool.toNat_false] at fewer
    simp only [blocked_eq]
    omega

/-- Who sleeps on has the reason that it had, unless the last writer has gone. -/
theorem Attended.abandon (attended : l.Attended)
    (sleeping : l.threads[i]? = some (.asleep mode notified)) : (l.abandon i).Attended := by
  have old {m : Mode} {ts : List Phase} (member : .asleep m false ∈ ts.set i .idle) :
      .asleep m false ∈ ts := by
    rcases List.mem_or_eq_of_mem_set member with old | new
    · exact old
    · contradiction
  cases mode with
  | shared =>
    rw [abandon_reader sleeping]
    exact ⟨fun member => attended.readers (old member), fun member => attended.writers (old member)⟩
  | exclusive =>
    rw [abandon_writer sleeping]
    unfold threadsAtEntry
    by_cases last : l.waitingWriters - 1 = 0
    · simp only [last, ↓reduceIte]
      exact ⟨fun member => absurd (old member) (not_mem_map_notify _ _),
        fun member => absurd (old member) (not_mem_map_notify _ _)⟩
    · simp only [last, ↓reduceIte]
      exact ⟨fun _ => .inr (Nat.pos_of_ne_zero last), fun member => attended.writers (old member)⟩

/-- A reader that looks while a writer waits goes to sleep. -/
theorem Look.reader_waits {next : SharedLock} (wanted : 0 < l.waitingWriters)
    (look : l.Look i .shared next) : next = l.setPhase i (.asleep .shared false) := by
  cases look with
  | readerWaits _ => rfl
  | reads _ unwanted => omega

end SharedLock

namespace Session
variable {discipline : Discipline} {s t u : Session}

/-! ### Runs with exceptions -/

/-- A step of one thread, or an exception that ends the wait of one. -/
inductive Move (discipline : Discipline) : Session → Session → Prop where
  | step {s t : Session} (step : Step discipline s t) : Move discipline s t
  | interrupted {s : Session} {i : Nat} {mode : Mode} {notified : Bool}
      (sleeping : s.lock.threads[i]? = some (.asleep mode notified)) :
      Move discipline s ⟨s.lock.abandon i, s.holdings⟩

/-- A session that moves have led to from a lock that nobody has called for yet. -/
def Arises (discipline : Discipline) (s : Session) : Prop :=
  ∃ threads, Relation.ReflTransGen (Move discipline) (start threads) s

theorem Arises.move (arises : s.Arises discipline) (move : Move discipline s t) :
    t.Arises discipline := by
  obtain ⟨threads, run⟩ := arises
  exact ⟨threads, run.tail move⟩

theorem Reached.arises (reached : s.Reached discipline) : s.Arises discipline := by
  induction reached with
  | start threads => exact ⟨threads, .refl⟩
  | step _ step ih => exact ih.move (.step step)

theorem Arises.sound (arises : s.Arises discipline) : s.lock.Exclusive ∧ s.lock.Attended := by
  have inv := SharedLock.exclusive_invariant.and SharedLock.attended_invariant
  obtain ⟨threads, run⟩ := arises
  induction run with
  | refl => exact inv.fresh threads
  | tail _ move ih =>
    cases move with
    | step step => exact step.keeps inv ih
    | interrupted sleeping => exact ⟨ih.1.abandon sleeping, ih.2.abandon sleeping⟩

theorem Arises.accounted (arises : s.Arises .holders) : s.Accounted := by
  obtain ⟨threads, run⟩ := arises
  induction run with
  | refl => exact ⟨rfl, rfl⟩
  | tail _ move ih =>
    cases move with
    | step step => exact ih.step step
    | interrupted sleeping =>
      obtain ⟨readers, writer⟩ := SharedLock.readers_abandon sleeping
      exact ⟨readers.trans ih.readers, (congrArg Bool.toNat writer).trans ih.writer⟩

/-! ### While a writer waits -/

/-- A writer waits for the lock. -/
def Wanted (s : Session) : Prop :=
  ∃ (i : Nat) (notified : Bool), s.lock.threads[i]? = some (.asleep .exclusive notified)

theorem wanted_iff (sound : s.lock.Exclusive) : s.Wanted ↔ 0 < s.lock.waitingWriters := by
  rw [sound.counted]
  constructor
  · rintro ⟨i, notified, found⟩
    exact List.countP_pos_iff.mpr ⟨_, List.mem_of_getElem? found, rfl⟩
  · intro blocked
    obtain ⟨notified, member⟩ := SharedLock.exists_asleep_of_blocked blocked
    obtain ⟨i, found⟩ := List.getElem?_of_mem member
    exact ⟨i, notified, found⟩

/-- The thread obtains the lock in a mode. -/
def Obtains (s t : Session) (i : Nat) (mode : Mode) : Prop := t.holdings = (i, mode) :: s.holdings

/-- The holdings of readers. -/
def readings (s : Session) : List (Nat × Mode) := s.holdings.filter (·.2 == .shared)

/-- What a step can do while a writer waits. -/
inductive Deferred (s t : Session) : Prop where
  | kept (readers : t.lock.readers = s.lock.readers) (account : t.holdings = s.holdings)
      (waiting : s.lock.waitingWriters ≤ t.lock.waitingWriters)
  | released {held : Nat × Mode} (readers : t.lock.readers ≤ s.lock.readers)
      (account : t.holdings = s.holdings.erase held)
      (waiting : s.lock.waitingWriters ≤ t.lock.waitingWriters)
  | written {i : Nat} (readers : t.lock.readers = s.lock.readers)
      (account : s.Obtains t i .exclusive)

/-- The lock `l` is the lock of the session, or that of the session with one who calls. -/
theorem deferred_granted {l next : SharedLock} {mode : Mode} {i : Nat} {notified : Bool}
    (same : l.readers = s.lock.readers) (more : s.lock.waitingWriters ≤ l.waitingWriters)
    (wanted : 0 < l.waitingWriters) (sleeping : l.threads[i]? = some (.asleep mode notified))
    (look : l.Look i mode next) : Deferred s (granted ⟨l, s.holdings⟩ mode i next) := by
  obtain ⟨present, -⟩ := List.getElem?_eq_some_iff.mp sleeping
  cases look with
  | readerWaits _ | writerWaits _ =>
    rw [granted_of_asleep (SharedLock.threads_setPhase_self present _)]
    exact .kept same rfl more
  | reads _ unwanted => omega
  | writes _ _ =>
    obtain ⟨told, there⟩ := SharedLock.threadsAtEntry_sleeping sleeping
    obtain ⟨room, -⟩ := List.getElem?_eq_some_iff.mp there
    rw [granted_of_holding (List.getElem?_set_self room)]
    exact .written same rfl

theorem Step.deferred (step : Step discipline s t) (wanted : 0 < s.lock.waitingWriters) :
    Deferred s t := by
  cases step with
  | join => exact .kept rfl rfl (Nat.le_refl _)
  | @acquire i mode present awake =>
    have more : s.lock.waitingWriters ≤ (s.lock.enter mode i).waitingWriters := by
      cases mode with
      | shared => exact Nat.le_refl _
      | exclusive => exact Nat.le_succ _
    have sleeping := SharedLock.enter_sleeping (l := s.lock) present mode
    have look := SharedLock.wake_look sleeping
    rw [SharedLock.acquire_eq present]
    exact deferred_granted (l := s.lock.enter mode i) rfl more (Nat.lt_of_lt_of_le wanted more)
      sleeping look
  | wake sleeping =>
    exact deferred_granted rfl (Nat.le_refl _) wanted sleeping (SharedLock.wake_look sleeping)
  | release _ _ released =>
    rcases SharedLock.release_eq_ok released with ⟨-, -, rfl⟩ | ⟨-, -, rfl⟩
    · exact .released (Nat.sub_le _ _) rfl (Nat.le_refl _)
    · exact .released (Nat.le_refl _) rfl (Nat.le_refl _)
  | refused _ => exact .kept rfl rfl (Nat.le_refl _)

/-- Nothing but writing has become more. -/
structure Recedes (s t : Session) : Prop where
  readers : t.lock.readers ≤ s.lock.readers
  readings : t.readings.Sublist s.readings

theorem Recedes.trans (first : Recedes s t) (second : Recedes t u) : Recedes s u :=
  ⟨Nat.le_trans second.readers first.readers, second.readings.trans first.readings⟩

theorem Deferred.recedes (deferred : Deferred s t) : Recedes s t := by
  cases deferred with
  | kept readers account _ =>
    refine ⟨Nat.le_of_eq readers, ?_⟩
    rw [Session.readings, account]
    exact .refl _
  | released readers account _ =>
    refine ⟨readers, ?_⟩
    rw [Session.readings, account]
    exact List.erase_sublist.filter _
  | written readers account =>
    refine ⟨Nat.le_of_eq readers, ?_⟩
    rw [Session.readings, show t.holdings = _ from account]
    exact .refl _

/-- Whoever obtains the lock then writes: the account grows in no other case. -/
theorem Deferred.mode_eq {i : Nat} {mode : Mode} (deferred : Deferred s t)
    (obtains : s.Obtains t i mode) : mode = .exclusive := by
  unfold Obtains at obtains
  cases deferred with
  | kept _ account _ => exact absurd (obtains.symm.trans account) (List.cons_ne_self _ _)
  | @released held _ account _ =>
    have longer := congrArg List.length (obtains.symm.trans account)
    have shorter := List.length_erase_le (a := held) (l := s.holdings)
    rw [List.length_cons] at longer
    omega
  | written _ account =>
    obtain ⟨same, -⟩ := List.cons.inj (obtains.symm.trans account)
    exact congrArg Prod.snd same

theorem Move.recedes (move : Move discipline s t) (wanted : 0 < s.lock.waitingWriters) :
    Recedes s t ∧ ∀ i mode, s.Obtains t i mode → mode = .exclusive := by
  cases move with
  | step step =>
    have deferred := step.deferred wanted
    exact ⟨deferred.recedes, fun _ _ => deferred.mode_eq⟩
  | interrupted sleeping =>
    refine ⟨⟨Nat.le_of_eq (SharedLock.readers_abandon sleeping).1, .refl _⟩, ?_⟩
    intro i mode obtains
    exact absurd obtains.symm (List.cons_ne_self _ _)

/-! ### Stretches -/

/-- A stretch of a run in which a writer waits all the time. -/
inductive Stretch (discipline : Discipline) (s : Session) : Session → Prop where
  | here (wanted : s.Wanted) : Stretch discipline s s
  | on {t u : Session} (before : Stretch discipline s t) (move : Move discipline t u)
      (wanted : u.Wanted) : Stretch discipline s u

theorem Stretch.wanted (stretch : Stretch discipline s t) : t.Wanted := by
  cases stretch with
  | here wanted => exact wanted
  | on _ _ wanted => exact wanted

theorem Stretch.arises (stretch : Stretch discipline s t) (begun : s.Arises discipline) :
    t.Arises discipline := by
  induction stretch with
  | here _ => exact begun
  | on _ move _ ih => exact ih.move move

theorem Stretch.recedes (stretch : Stretch discipline s t) (begun : s.Arises discipline) :
    Recedes s t := by
  induction stretch with
  | here _ => exact ⟨Nat.le_refl _, .refl _⟩
  | on before move _ ih =>
    obtain ⟨sound, -⟩ := (before.arises begun).sound
    exact ih.trans (move.recedes ((wanted_iff sound).mp before.wanted)).1

/-- A step with which nobody obtains the lock. -/
def Unobtained (discipline : Discipline) (s t : Session) : Prop :=
  Step discipline s t ∧ ∀ i mode, ¬s.Obtains t i mode

/-- Whoever waits to write waits on until somebody has obtained the lock. -/
theorem Unobtained.wanted (step : Unobtained discipline s t) (wanted : 0 < s.lock.waitingWriters) :
    0 < t.lock.waitingWriters := by
  obtain ⟨step, nobody⟩ := step
  cases step.deferred wanted with
  | kept _ _ waiting => exact Nat.lt_of_lt_of_le wanted waiting
  | released _ _ waiting => exact Nat.lt_of_lt_of_le wanted waiting
  | written _ obtains => exact absurd obtains (nobody _ _)

/-- By induction on the run. -/
theorem wanted_of_unobtained (run : Relation.ReflTransGen (Unobtained discipline) t u)
    (wanted : 0 < t.lock.waitingWriters) : 0 < u.lock.waitingWriters := by
  induction run with
  | refl => exact wanted
  | tail _ step ih => exact step.wanted ih

theorem Accounted.readers_eq_length (accounted : s.Accounted) :
    s.lock.readers = s.readings.length := by
  rw [accounted.readers, holders, List.countP_eq_length_filter, readings]

/-- How the lock goes on at `t`, where a writer has waited since `s`. -/
structure Prevails (discipline : Discipline) (s t : Session) : Prop where
  /-- There are no more readers than before, and no more after the next move. -/
  readers : t.lock.readers ≤ s.lock.readers ∧
    ∀ u, Move discipline t u → u.lock.readers ≤ t.lock.readers
  /-- Whoever reads now did so before; if only holders release, these are all the readers. -/
  before : t.readings.Sublist s.readings ∧
    (discipline = .holders → t.lock.readers = t.readings.length)
  /-- A reader that calls goes to sleep, and so does one that is woken. -/
  starts : ∀ i : Nat, t.lock.acquire .shared i = t.lock.setPhase i (.asleep .shared false)
  woken : ∀ (i : Nat) (notified : Bool), t.lock.threads[i]? = some (.asleep .shared notified) →
    t.lock.wake i = t.lock.setPhase i (.asleep .shared false)
  /-- Whoever obtains the lock with the next move writes. -/
  writes : ∀ u i mode, Move discipline t u → t.Obtains u i mode → mode = .exclusive
  /-- So does whoever is the first one to obtain it, however late. -/
  next : ∀ u v i mode, Relation.ReflTransGen (Unobtained discipline) t u → Step discipline u v →
    u.Obtains v i mode → mode = .exclusive
  /-- Every writer that looks at a free lock gets it, and one of them has been told to look. -/
  free : t.lock.readers = 0 → t.lock.writer = false →
    (∀ (i : Nat) (notified : Bool), t.lock.threads[i]? = some (.asleep .exclusive notified) →
      (t.lock.wake i).threads[i]? = some (.holding .exclusive) ∧ (t.lock.wake i).writer = true) ∧
    ∃ i : Nat, t.lock.threads[i]? = some (.asleep .exclusive true)

theorem writers_not_overtaken (begun : s.Arises discipline) (stretch : Stretch discipline s t) :
    Prevails discipline s t := by
  have arises := stretch.arises begun
  obtain ⟨sound, attended⟩ := arises.sound
  have wanted := (wanted_iff sound).mp stretch.wanted
  obtain ⟨readers, before⟩ := stretch.recedes begun
  exact {
    readers := ⟨readers, fun u move => (move.recedes wanted).1.readers⟩
    before := by
      refine ⟨before, ?_⟩
      rintro rfl
      exact arises.accounted.readers_eq_length
    starts := fun i => SharedLock.tryShared_look.reader_waits wanted
    woken := fun i notified sleeping => (SharedLock.wake_look sleeping).reader_waits wanted
    writes := fun u i mode move => (move.recedes wanted).2 i mode
    next := by
      intro u v i mode run step obtains
      have still := wanted_of_unobtained run wanted
      exact (step.deferred still).mode_eq obtains
    free := by
      intro unread unwritten
      refine ⟨fun i notified sleeping => ?_, ?_⟩
      · exact (SharedLock.wake_look sleeping).obtains sleeping unread unwritten nofun
      · obtain ⟨i, notified, sleeping⟩ := stretch.wanted
        cases notified with
        | true => exact ⟨i, sleeping⟩
        | false =>
          -- Without a notice the writer would have a reason to sleep, and there is none.
          have reason := attended.writers (List.mem_of_getElem? sleeping)
          simp [unwritten, unread] at reason }

/-- The reader in front of the writer goes, and the one behind it waits on. -/
theorem writers_not_overtaken_freed : queuedSession.Arises .holders ∧
    Stretch .holders queuedSession freedSession ∧ Prevails .holders queuedSession freedSession := by
  have begun := queuedSession_reached.arises
  have awake : ¬queuedSession.lock.Sleeps 0 := by decide
  have owned : (0, .shared) ∈ queuedSession.holdings := by decide
  have leaves : Step .holders queuedSession freedSession := .release awake (fun _ => owned) rfl
  have stretch : Stretch .holders queuedSession freedSession :=
    .on (.here ⟨1, false, rfl⟩) (.step leaves) ⟨1, true, rfl⟩
  exact ⟨begun, stretch, writers_not_overtaken begun stretch⟩

end Session
end SandboxProfile.Lock
