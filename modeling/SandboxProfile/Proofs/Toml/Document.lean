import SandboxProfile.Proofs.Toml.Value

/-! Documents line by line. A header and a setting are read from their lines, and reading on
leads from one document to the next. -/
namespace SandboxProfile.Toml
variable {d d' : Document} {cs middle rest : List Char}

/-! ### Statements -/

theorem starts_class {c : Char} (starts : startsStatement c = true) : isSpace c = false := by
  cases space : isSpace c with
  | false => rfl
  | true =>
    simp only [isSpace, Bool.or_eq_true, decide_eq_true_eq] at space
    rcases space with rfl | rfl <;> contradiction

/-- What is written for a key begins a statement, and not that of a header. -/
theorem keyText_begins (s : String) : ∃ c cs, (keyText s).toList = c :: cs ∧
    startsStatement c = true ∧ c ≠ '[' := by
  obtain ⟨c, cs, first, bare | rfl⟩ := exists_keyText s
  · refine ⟨c, cs, first, by simp [startsStatement, bare], ?_⟩
    rintro rfl
    contradiction
  · exact ⟨_, cs, first, by decide, by decide⟩

theorem statement_header (s : String) (rest : List Char) :
    Reads statement ('[' :: ((keyText s).toList ++ ']' :: rest)) (.header [s]) rest := by
  obtain ⟨c, cs, first, starts, noBracket⟩ := keyText_begins s
  have named : Reads key ((keyText s).toList ++ ([] ++ ']' :: rest)) [s] (']' :: rest) :=
    key_keyText s (List.forall_mem_nil _) (by simp; decide)
  unfold statement
  refine Reads.passing (by simp [first, List.isPrefixOf, noBracket.symm]) (Reads.taking ?_)
  refine (Reads.skipNone (by simp [first, starts_class starts])).bind (named.bind ?_)
  exact (Reads.expect "]" rest).bind (Reads.pure _ rest)

theorem statement_setting (k : String) {v : Value} {text : List Char} (denotes : Denotes text v)
    (rest : List Char) :
    Reads statement ((keyText k).toList ++ (" = ".toList ++ (text ++ '\n' :: rest)))
      (.setting [k] v) ('\n' :: rest) := by
  obtain ⟨c, cs, first, -, noBracket⟩ := keyText_begins k
  have space : ∀ c ∈ [' '], isSpace c = true := by simp [isSpace]
  have named : Reads key ((keyText k).toList ++ ([' '] ++ '=' :: ' ' :: (text ++ '\n' :: rest)))
      [k] ('=' :: ' ' :: (text ++ '\n' :: rest)) :=
    key_keyText k space (by simp; decide)
  have valued : ∀ c ∈ (text ++ '\n' :: rest).head?, isSpace c = false := by
    cases text with
    | nil => simp [isSpace]
    | cons c text => exact denotes.begins
  unfold statement
  refine Reads.passing (by simp [first, List.isPrefixOf, noBracket.symm]) ?_
  refine Reads.passing (by simp [first, List.isPrefixOf, noBracket.symm]) ?_
  refine named.bind ((Reads.expect "=" _).bind ?_)
  refine (Reads.skipWhile space valued).bind ?_
  refine (Reads.get _).bind ((denotes.read _ rest ?_).bind (Reads.pure _ _))
  simp only [List.length_append]
  omega

/-! ### Lines -/

/-- Reading a document on from one place comes to another place. -/
def Leads (d : Document) (cs : List Char) (d' : Document) (rest : List Char) : Prop :=
  ∀ fuel, cs.length < fuel → ∃ fuel', rest.length < fuel' ∧
    ∀ result, Reads (lines fuel' d') rest result [] → Reads (lines fuel d) cs result []

namespace Leads

theorem refl (d : Document) (cs : List Char) : Leads d cs d cs :=
  fun fuel enough => ⟨fuel, enough, fun _ => id⟩

theorem trans {d'' : Document} (first : Leads d cs d' middle) (next : Leads d' middle d'' rest) :
    Leads d cs d'' rest := by
  intro fuel enough
  obtain ⟨fuel', enough', reads⟩ := first fuel enough
  obtain ⟨fuel'', enough'', reads'⟩ := next fuel' enough'
  exact ⟨fuel'', enough'', fun result read => reads result (reads' result read)⟩

theorem blank (d : Document) (rest : List Char) : Leads d ('\n' :: rest) d rest := by
  intro fuel enough
  obtain ⟨fuel, rfl⟩ := Nat.exists_eq_succ_of_ne_zero (Nat.ne_of_gt (Nat.zero_lt_of_lt enough))
  refine ⟨fuel, Nat.lt_of_succ_lt_succ enough, fun result read => ?_⟩
  unfold lines
  refine (Reads.skipNone (by simp [isSpace])).bind ((Reads.peek _).bind ?_)
  exact (Reads.skip 1 _).bind read

/-- A statement on a line of its own is applied to the document. -/
theorem line {line : List Char} {s : Statement}
    (begins : ∀ c ∈ (line ++ '\n' :: rest).head?, startsStatement c = true)
    (read : Reads statement (line ++ '\n' :: rest) s ('\n' :: rest))
    (applied : d.apply s = .ok d') : Leads d (line ++ '\n' :: rest) d' rest := by
  intro fuel enough
  obtain ⟨fuel, rfl⟩ := Nat.exists_eq_succ_of_ne_zero (Nat.ne_of_gt (Nat.zero_lt_of_lt enough))
  refine ⟨fuel, ?_, fun result others => ?_⟩
  · simp only [List.length_append, List.length_cons] at enough
    omega
  obtain ⟨c, cs, first⟩ : ∃ c cs, line ++ '\n' :: rest = c :: cs :=
    List.exists_cons_of_ne_nil (by simp)
  rw [first] at begins read ⊢
  have starts := begins c rfl
  unfold lines
  refine (Reads.skipNone (by simp [starts_class starts])).bind ((Reads.peek _).bind ?_)
  dsimp only [List.head?_cons]
  split
  · contradiction
  · next same =>
    obtain rfl := Option.some.inj same
    contradiction
  · next _ same =>
    obtain rfl := Option.some.inj same
    rw [if_pos starts]
    refine read.bind ((Reads.lift applied _).bind ?_)
    refine (Reads.skipNone (by simp [isSpace])).bind ?_
    refine (Reads.passing rfl (Reads.pure () _)).bind ((Reads.peek _).bind ?_)
    exact (Reads.skip 1 _).bind others

end Leads

theorem unifyBreaks_of_unbroken (unbroken : '\r' ∉ cs) : unifyBreaks cs = cs := by
  induction cs with
  | nil => rfl
  | cons c cs ih =>
    rw [List.mem_cons, not_or] at unbroken
    rw [unifyBreaks, ih unbroken.2]
    exact fun _ same => absurd same.symm unbroken.1

/-- A document that is read up to its end gives its entries. -/
theorem load_of_leads {s : String} (unbroken : '\r' ∉ s.toList)
    (leads : Leads .empty s.toList d []) : load s = .ok d.entries := by
  obtain ⟨fuel, enough, reads⟩ := leads (s.toList.length + 1) (Nat.lt_succ_self _)
  obtain ⟨fuel, rfl⟩ := Nat.exists_eq_succ_of_ne_zero (Nat.ne_of_gt enough)
  have read := reads d (by
    unfold lines
    exact (Reads.skipNone (by simp)).bind ((Reads.peek _).bind (Reads.pure d _)))
  rw [load, unifyBreaks_of_unbroken unbroken]
  dsimp only
  unfold Reads at read
  rw [read]
  rfl

end SandboxProfile.Toml
