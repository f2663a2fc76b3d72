import SandboxProfile.Text.Layout

/-! Texts put together from parts, and parts found again. A run of characters of a class ends
where the text ends or goes on with a character of another class. -/
namespace SandboxProfile.Text
variable {p : Char → Bool} {front rest : List Char}

theorem takeWhile_append_of_stop (all : ∀ c ∈ front, p c = true)
    (stop : ∀ c ∈ rest.head?, p c = false) : (front ++ rest).takeWhile p = front := by
  rw [List.takeWhile_append_of_pos all]
  cases rest with
  | nil => exact List.append_nil front
  | cons c cs => rw [List.takeWhile_cons_of_neg (by simpa using stop c rfl), List.append_nil]

theorem dropWhile_append_of_stop (all : ∀ c ∈ front, p c = true)
    (stop : ∀ c ∈ rest.head?, p c = false) : (front ++ rest).dropWhile p = rest := by
  rw [List.dropWhile_append_of_pos all]
  cases rest with
  | nil => rfl
  | cons c cs => exact List.dropWhile_cons_of_neg (by simpa using stop c rfl)

theorem stop_cons {c : Char} (other : p c = false) (cs : List Char) :
    ∀ d ∈ (c :: cs).head?, p d = false := by
  intro d first
  obtain rfl := Option.some.inj first
  exact other

/-- In a row of texts each but the first one comes behind a separator. -/
theorem joinWith_cons_toList (sep s : String) (texts : List String) :
    (joinWith sep (s :: texts)).toList =
      s.toList ++ texts.flatMap fun t => sep.toList ++ t.toList := by
  induction texts generalizing s with
  | nil => rw [joinWith, List.flatMap_nil, List.append_nil]
  | cons t texts ih =>
    rw [joinWith, String.toList_append, String.toList_append, ih, List.flatMap_cons,
      List.append_assoc, List.append_assoc]
    exact List.cons_ne_nil t texts

end SandboxProfile.Text
