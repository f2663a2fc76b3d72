import SandboxProfile.Lock.Shared

/-! Settling: notified threads wake one after another until none is left. A thread
that wakes goes back to sleep without a notice or stops sleeping for good, so this
comes to an end. -/
namespace SandboxProfile.Lock.SharedLock

def asleep (l : SharedLock) : Nat := l.threads.countP Phase.isAsleep

def notified (l : SharedLock) : Nat := l.threads.countP Phase.isNotified

private theorem asleep_map_notify (ts : List Phase) :
    (ts.map Phase.notify).countP Phase.isAsleep = ts.countP Phase.isAsleep := by
  rw [List.countP_map]
  refine List.countP_congr fun p _ => ?_
  cases p <;> simp [Phase.notify, Phase.isAsleep]

private theorem isAsleep_of_isNotified {p : Phase} (h : p.isNotified = true) :
    p.isAsleep = true := by
  cases p <;> simp_all [Phase.isNotified, Phase.isAsleep]

private theorem countP_pos_of_getElem {p : Phase → Bool} {ts : List Phase} {i : Nat}
    (hi : i < ts.length) (hp : p ts[i] = true) : 0 < ts.countP p :=
  List.countP_pos_iff.mpr ⟨ts[i], List.getElem_mem hi, hp⟩

/-- Less is left to do: fewer threads sleep, or as many with fewer notices. -/
def Closer (a b : SharedLock) : Prop :=
  a.asleep < b.asleep ∨ a.asleep = b.asleep ∧ a.notified < b.notified

private theorem closer_sleep {l : SharedLock} {i : Nat} (mode : Mode) (hi : i < l.threads.length)
    (hn : l.threads[i].isNotified = true) : Closer (l.setPhase i (.asleep mode false)) l := by
  have ha := isAsleep_of_isNotified hn
  have h1 := countP_pos_of_getElem hi ha
  have h2 := countP_pos_of_getElem hi hn
  refine .inr ⟨?_, ?_⟩
  · simp only [asleep, setPhase, List.countP_set hi, ha]
    simp only [Phase.isAsleep, if_true]
    omega
  · simp only [notified, setPhase, List.countP_set hi, hn]
    simp only [Phase.isNotified, Bool.false_eq_true, if_true, if_false]
    omega

private theorem closer_hold {l left : SharedLock} {i : Nat} (mode : Mode)
    (hi : i < l.threads.length) (hn : l.threads[i].isNotified = true)
    (hl : left.threads = l.threads ∨ left.threads = l.threads.map Phase.notify) :
    Closer (left.setPhase i (.holding mode)) l := by
  have ha := isAsleep_of_isNotified hn
  have h1 := countP_pos_of_getElem hi ha
  refine .inl ?_
  rcases hl with hl | hl
  · simp only [asleep, setPhase, hl, List.countP_set hi, ha]
    simp only [Phase.isAsleep, Bool.false_eq_true, if_true, if_false]
    omega
  · have hm : i < (l.threads.map Phase.notify).length := by simpa using hi
    have hk : (l.threads.map Phase.notify)[i].isAsleep = true := by
      simp only [List.getElem_map]
      cases h : l.threads[i] <;> simp_all [Phase.notify, Phase.isAsleep]
    simp only [asleep, setPhase, hl, List.countP_set hm, hk, asleep_map_notify]
    simp only [Phase.isAsleep, Bool.false_eq_true, if_true, if_false]
    omega

theorem closer_wake {l : SharedLock} {i : Nat} (hi : i < l.threads.length)
    (hn : l.threads[i].isNotified = true) : Closer (l.wake i) l := by
  have hget : l.threads[i]? = some l.threads[i] := List.getElem?_eq_getElem hi
  unfold wake
  rw [hget]
  split
  · unfold tryShared
    split
    · exact closer_sleep .shared hi hn
    · have hl : ({ l with readers := l.readers + 1 } : SharedLock).threads = l.threads := rfl
      exact closer_hold .shared hi hn (.inl hl)
  · unfold tryExclusive
    split
    · exact closer_sleep .exclusive hi hn
    · refine closer_hold .exclusive hi hn ?_
      split
      · exact .inr rfl
      · exact .inl rfl
  · next h1 h2 =>
    cases h : l.threads[i] with
    | asleep m b => cases m <;> simp_all
    | _ => simp_all [Phase.isNotified]

set_option linter.unusedVariables false in
/-- Wakes notified threads, always the first of them, until none is left. -/
def settle (l : SharedLock) : SharedLock :=
  match h : l.threads.findIdx? Phase.isNotified with
  | none => l
  | some i => settle (l.wake i)
termination_by (l.asleep, l.notified)
decreasing_by
  obtain ⟨hi, hn, _⟩ := List.findIdx?_eq_some_iff_getElem.mp h
  rcases closer_wake hi hn with hlt | ⟨heq, hlt⟩
  · exact Prod.Lex.left _ _ hlt
  · rw [Prod.lex_def]
    exact .inr ⟨heq, hlt⟩

/-- A call on the lock. Every acquiring call comes from a thread of its own. -/
inductive Call where
  | acquire (mode : Mode)
  | release (mode : Mode)
  deriving Repr, DecidableEq

/-- The lock after a call has been made and every thread holds or waits. A call
that fails leaves the lock as it was. -/
def call (l : SharedLock) : Call → SharedLock × Option LockFault
  | .acquire mode =>
    let grown := { l with threads := l.threads ++ [Phase.idle] }
    ((grown.acquire mode l.threads.length).settle, none)
  | .release mode =>
    match l.release mode with
    | .ok left => (left.settle, none)
    | .error fault => (l, some fault)

/-- The states after each of a series of calls. -/
def history (l : SharedLock) : List Call → List (SharedLock × Option LockFault)
  | [] => []
  | c :: rest =>
    let next := l.call c
    next :: next.1.history rest

end SandboxProfile.Lock.SharedLock
