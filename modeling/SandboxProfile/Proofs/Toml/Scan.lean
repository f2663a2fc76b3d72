import SandboxProfile.Toml.Scan
import SandboxProfile.Proofs.Outcome
import SandboxProfile.Proofs.Text.Layout

/-! Readings that succeed: what is read off a text, and what is left of it. A reading is put
together from its steps in the order in which they go on in the text. -/
namespace SandboxProfile.Toml
variable {α β : Type} {cs middle rest : List Char}

/-- A reading gives a result and stops in front of a rest. -/
def Reads (x : Scan α) (cs : List Char) (a : α) (rest : List Char) : Prop :=
  x.run cs = .ok (a, rest)

namespace Reads
variable {x y : Scan α} {f : α → Scan β} {a : α} {b : β} {mark : String} {p : Char → Bool}

theorem pure (a : α) (cs : List Char) : Reads (pure a) cs a cs := rfl

theorem bind (first : Reads x cs a middle) (next : Reads (f a) middle b rest) :
    Reads (x >>= f) cs b rest := by
  unfold Reads at *
  rw [StateT.run_bind, first]
  exact next

theorem map (g : α → β) (read : Reads x cs a rest) : Reads (g <$> x) cs (g a) rest := by
  unfold Reads at *
  rw [StateT.run_map, read]
  rfl

theorem get (cs : List Char) : Reads (MonadState.get : Scan (List Char)) cs cs cs := rfl

theorem peek (cs : List Char) : Reads Scan.peek cs cs.head? cs := rfl

theorem skip (n : Nat) (cs : List Char) : Reads (Scan.skip n) cs () (cs.drop n) := rfl

/-- Characters of a class are passed over up to one that is not of it. -/
theorem skipWhile {front : List Char} (all : ∀ c ∈ front, p c = true)
    (stop : ∀ c ∈ rest.head?, p c = false) : Reads (Scan.skipWhile p) (front ++ rest) () rest := by
  show Except.ok ((), (front ++ rest).dropWhile p) = _
  rw [Text.dropWhile_append_of_stop all stop]

theorem skipNone (stop : ∀ c ∈ cs.head?, p c = false) : Reads (Scan.skipWhile p) cs () cs :=
  skipWhile (List.forall_mem_nil _) stop

theorem takeWhile {front : List Char} (all : ∀ c ∈ front, p c = true)
    (stop : ∀ c ∈ rest.head?, p c = false) :
    Reads (Scan.takeWhile p) (front ++ rest) front rest := by
  have found := Text.takeWhile_append_of_stop all stop
  refine (get _).bind ((skip _ _).bind ?_)
  rw [found, List.drop_left]
  exact pure front rest

theorem takeNone (stop : ∀ c ∈ cs.head?, p c = false) : Reads (Scan.takeWhile p) cs [] cs :=
  takeWhile (List.forall_mem_nil _) stop

/-- A mark that comes next is read. -/
theorem accept (mark : String) (rest : List Char) :
    Reads (Scan.accept mark) (mark.toList ++ rest) true rest := by
  refine (get _).bind ?_
  rw [if_pos (by simp)]
  refine (skip _ _).bind ?_
  rw [show mark.length = mark.toList.length from rfl, List.drop_left]
  exact pure true rest

/-- A mark that does not come next is left alone. -/
theorem miss (other : mark.toList.isPrefixOf cs = false) : Reads (Scan.accept mark) cs false cs := by
  refine (get cs).bind ?_
  rw [other]
  exact pure false cs

theorem expect (mark : String) (rest : List Char) :
    Reads (Scan.expect mark) (mark.toList ++ rest) () rest :=
  (accept mark rest).bind (pure () rest)

theorem lift {x : Except Fault α} (given : x = .ok a) (cs : List Char) :
    Reads (StateT.lift x) cs a cs := by
  rw [given]
  rfl

/-- A choice by a mark that comes next. -/
theorem taking (read : Reads x rest a middle) :
    Reads (Scan.accept mark >>= fun found => if found = true then x else y) (mark.toList ++ rest) a
      middle :=
  (accept mark rest).bind read

/-- A choice by a mark that does not come next. -/
theorem passing (other : mark.toList.isPrefixOf cs = false) (read : Reads y cs a rest) :
    Reads (Scan.accept mark >>= fun found => if found = true then x else y) cs a rest :=
  (miss other).bind read

end Reads
end SandboxProfile.Toml
