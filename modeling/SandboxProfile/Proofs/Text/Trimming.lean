import SandboxProfile.Proofs.Text.Layout
import SandboxProfile.Text.Blank
import Mathlib.Data.List.TakeWhile

/-! Trimming. What trimming leaves of a text neither begins nor ends with a character of the class
that is removed, and it is the only such part with nothing but that class around it. -/
namespace SandboxProfile.Text

/-- A text with characters of a class around a part of it. -/
def Surrounded (p : Char → Bool) (core cs : List Char) : Prop :=
  ∃ front back, (∀ c ∈ front, p c = true) ∧ (∀ c ∈ back, p c = true) ∧ cs = front ++ core ++ back

/-- A text that neither begins nor ends with a character of a class. -/
structure Bare (p : Char → Bool) (cs : List Char) : Prop where
  first : ∀ c ∈ cs.head?, p c = false
  last : ∀ c ∈ cs.getLast?, p c = false

variable {p : Char → Bool} {core cs front back : List Char}

theorem Surrounded.refl (cs : List Char) : Surrounded p cs cs :=
  ⟨[], [], List.forall_mem_nil _, List.forall_mem_nil _, (List.append_nil cs).symm⟩

theorem Surrounded.mem (around : Surrounded p core cs) {c : Char} (member : c ∈ cs) :
    c ∈ core ∨ p c = true := by
  obtain ⟨front, back, before, behind, rfl⟩ := around
  rcases List.mem_append.mp member with member | last
  · rcases List.mem_append.mp member with first | inner
    · exact .inr (before c first)
    · exact .inl inner
  · exact .inr (behind c last)

theorem Surrounded.subset (around : Surrounded p core cs) : core ⊆ cs := by
  obtain ⟨front, back, -, -, rfl⟩ := around
  exact fun c member => List.mem_append_left back (List.mem_append_right front member)

theorem Bare.of_none (none : ∀ c ∈ cs, p c = false) : Bare p cs where
  first c first := none c (List.mem_of_mem_head? first)
  last c last := none c (List.mem_of_getLast? last)

/-- More of the class may be put around a text. -/
theorem Surrounded.widen (around : Surrounded p core cs) (before : ∀ c ∈ front, p c = true)
    (behind : ∀ c ∈ back, p c = true) : Surrounded p core (front ++ cs ++ back) := by
  obtain ⟨inner, outer, first, last, rfl⟩ := around
  refine ⟨front ++ inner, outer ++ back, ?_, ?_, by simp only [List.append_assoc]⟩
  · intro c member
    rcases List.mem_append.mp member with member | member
    · exact before c member
    · exact first c member
  · intro c member
    rcases List.mem_append.mp member with member | member
    · exact last c member
    · exact behind c member

theorem Surrounded.length_le (around : Surrounded p core cs) : core.length ≤ cs.length := by
  obtain ⟨front, back, -, -, rfl⟩ := around
  simp only [List.length_append]
  omega

theorem of_mem_head?_dropWhile (cs : List Char) :
    ∀ c ∈ (cs.dropWhile p).head?, p c = false := by
  intro c first
  have stopped := List.head?_dropWhile_not p cs
  rw [Option.mem_def.mp first] at stopped
  exact stopped

theorem trimList_of_surrounded (around : Surrounded p core cs) (bare : Bare p core) :
    trimList p cs = core := by
  obtain ⟨front, back, before, behind, rfl⟩ := around
  cases core with
  | nil =>
    have removed : (front ++ [] ++ back).dropWhile p = [] := by
      apply List.dropWhile_eq_nil_iff.mpr
      intro c member
      rw [List.append_nil] at member
      exact (List.mem_append.mp member).elim (before c) (behind c)
    rw [trimList, removed]
    rfl
  | cons c rest =>
    have front : (front ++ (c :: rest) ++ back).dropWhile p = c :: rest ++ back := by
      rw [List.append_assoc]
      exact dropWhile_append_of_stop before (stop_cons (bare.first c rfl) (rest ++ back))
    have back : (c :: rest ++ back).reverse.dropWhile p = (c :: rest).reverse := by
      rw [List.reverse_append]
      apply dropWhile_append_of_stop
      · intro d member
        exact behind d (List.mem_reverse.mp member)
      · rw [List.head?_reverse]
        exact bare.last
    rw [trimList, front, back, List.reverse_reverse]

theorem surrounded_trimList (p : Char → Bool) (cs : List Char) :
    Surrounded p (trimList p cs) cs := by
  have split : ∀ cs : List Char, ∃ front, (∀ c ∈ front, p c = true) ∧ cs = front ++ cs.dropWhile p :=
    fun cs => ⟨cs.takeWhile p, fun c => List.mem_takeWhile_imp, List.takeWhile_append_dropWhile.symm⟩
  obtain ⟨front, before, first⟩ := split cs
  obtain ⟨back, behind, last⟩ := split (cs.dropWhile p).reverse
  refine ⟨front, back.reverse, before, fun c member => behind c (List.mem_reverse.mp member), ?_⟩
  have kept : cs.dropWhile p = trimList p cs ++ back.reverse := by
    rw [trimList, ← List.reverse_append, ← last, List.reverse_reverse]
  rw [List.append_assoc, ← kept]
  exact first

theorem bare_trimList (p : Char → Bool) (cs : List Char) : Bare p (trimList p cs) where
  first := by
    intro c first
    have around : trimList p cs <+: cs.dropWhile p := by
      rw [trimList]
      exact List.reverse_suffix.mp (by
        rw [List.reverse_reverse]
        exact List.dropWhile_suffix p)
    obtain ⟨back, whole⟩ := around
    apply of_mem_head?_dropWhile cs c
    rw [← whole, List.head?_append, Option.mem_def.mp first]
    rfl
  last := by
    intro c last
    rw [trimList, List.getLast?_reverse] at last
    exact of_mem_head?_dropWhile _ c last

theorem surrounded_trim (s : String) : Surrounded isBlank (trim s).toList s.toList := by
  rw [trim, String.toList_ofList]
  exact surrounded_trimList isBlank s.toList

theorem bare_trim (s : String) : Bare isBlank (trim s).toList := by
  rw [trim, String.toList_ofList]
  exact bare_trimList isBlank s.toList

theorem trim_eq_of_surrounded {s t : String} (around : Surrounded isBlank t.toList s.toList)
    (bare : Bare isBlank t.toList) : trim s = t := by
  rw [trim, trimList_of_surrounded around bare, String.ofList_toList]

/-- Nothing is left of a text just if it is blank throughout. -/
theorem trim_eq_empty_iff {s : String} : trim s = "" ↔ ∀ c ∈ s.toList, isBlank c = true := by
  constructor
  · intro empty c member
    have around := surrounded_trim s
    rw [empty] at around
    exact (around.mem member).resolve_left List.not_mem_nil
  · intro blank
    apply trim_eq_of_surrounded
    · exact ⟨s.toList, [], blank, List.forall_mem_nil _, by simp⟩
    · exact ⟨nofun, nofun⟩

end SandboxProfile.Text
