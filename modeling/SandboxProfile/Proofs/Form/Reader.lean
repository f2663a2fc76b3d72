import SandboxProfile.Policy.Filter

/-! S-expressions and their reader. It takes one character at a time, so that what
a text does to it is what the parts of the text do one after another. -/
namespace SandboxProfile

/-- A form: a token or a list in parentheses. -/
inductive Form where
  | atom (name : String)
  | text (content : String)
  | regex (content : String)
  | mask (value : Int)
  | list (items : List Form)
  deriving Repr, BEq, Inhabited

namespace Form

/-- The characters that end an atom. -/
def isDelimiter (c : Char) : Bool := [' ', '\n', '(', ')', '"'].contains c

/-- Whether a name reads as one atom. -/
def isPlainName (s : String) : Bool :=
  match s.toList with
  | [] => false
  | c :: cs => c != '#' && (c :: cs).all fun d => !isDelimiter d

def isOctalDigit (c : Char) : Bool := "01234567".toList.contains c

def octalValue? (cs : List Char) : Option Nat :=
  if cs ≠ [] ∧ cs.all isOctalDigit then some (Nat.ofDigitChars 8 cs 0) else none

def maskValue? : List Char → Option Int
  | '-' :: cs => (octalValue? cs).map fun n : Nat => -(n : Int)
  | cs => (octalValue? cs).map fun n : Nat => (n : Int)

/-- The token that a reader is in the middle of, with what it has read of it. -/
inductive Token where
  | gap
  | atom (begun : List Char)
  | text (begun : List Char)
  /-- Behind a backslash inside a text. -/
  | escape (begun : List Char)
  /-- Behind the hash that begins a regular expression or a mask. -/
  | hash
  | regex (begun : List Char)
  | mask (begun : List Char)
  deriving Repr, DecidableEq

/-- A reader inside some lists: the items of the innermost one, and those of the
lists around it from the inside outwards. -/
structure Reader where
  token : Token
  items : List Form
  enclosing : List (List Form)

namespace Reader

def start : Reader := ⟨.gap, [], []⟩

def push (f : Form) (r : Reader) : Reader := { r with token := .gap, items := r.items ++ [f] }

/-- Ends the token. Texts and regular expressions end by their quotes only. -/
def settle (r : Reader) : Option Reader :=
  match r.token with
  | .gap => some r
  | .atom cs => some (r.push (.atom (String.ofList cs)))
  | .mask cs => (maskValue? cs).map fun i => r.push (.mask i)
  | _ => none

def descend (r : Reader) : Reader := ⟨.gap, [], r.items :: r.enclosing⟩

def ascend (r : Reader) : Option Reader :=
  match r.enclosing with
  | [] => none
  | outer :: rest => some ⟨.gap, outer ++ [.list r.items], rest⟩

/-- A delimiter between two tokens. -/
def delimit (r : Reader) (c : Char) : Option Reader :=
  if c = '(' then some r.descend
  else if c = ')' then r.ascend
  else if c = '"' then some { r with token := .text [] }
  else some r

def step (r : Reader) (c : Char) : Option Reader :=
  match r.token with
  | .text cs =>
    some (if c = '"' then r.push (.text (String.ofList cs))
      else { r with token := if c = '\\' then .escape cs else .text (cs ++ [c]) })
  | .escape cs =>
    if c = '"' ∨ c = '\\' then some { r with token := .text (cs ++ [c]) } else none
  | .regex cs =>
    some (if c = '"' then r.push (.regex (String.ofList cs))
      else { r with token := .regex (cs ++ [c]) })
  | .hash =>
    if c = '"' then some { r with token := .regex [] }
    else if c = 'o' then some { r with token := .mask [] }
    else none
  | .gap =>
    if isDelimiter c then r.delimit c
    else some { r with token := if c = '#' then .hash else .atom [c] }
  | .atom cs =>
    if isDelimiter c then r.settle.bind (·.delimit c)
    else some { r with token := .atom (cs ++ [c]) }
  | .mask cs =>
    if isDelimiter c then r.settle.bind (·.delimit c)
    else some { r with token := .mask (cs ++ [c]) }

def run (r : Reader) (cs : List Char) : Option Reader := cs.foldlM step r

/-- What has been read, if every token and every list is closed. -/
def finish (r : Reader) : Option (List Form) :=
  r.settle.bind fun t => if t.enclosing.isEmpty then some t.items else none

@[simp] theorem run_nil (r : Reader) : r.run [] = some r := rfl

@[simp] theorem run_cons (r : Reader) (c : Char) (cs : List Char) :
    r.run (c :: cs) = (r.step c).bind (·.run cs) := rfl

theorem run_append (r : Reader) (cs ds : List Char) :
    r.run (cs ++ ds) = (r.run cs).bind (·.run ds) :=
  List.foldlM_append ..

/-- A delimiter ends the token before it. -/
theorem step_of_settle {r t : Reader} {c : Char} (settled : r.settle = some t)
    (delimiter : isDelimiter c = true) : r.step c = t.delimit c := by
  obtain ⟨token, items, enclosing⟩ := r
  cases token with
  | gap =>
    obtain rfl := Option.some.inj settled
    simp [step, delimiter]
  | atom cs => simp [step, delimiter, settled]
  | mask cs => simp [step, delimiter, settled]
  | text cs => contradiction
  | escape cs => contradiction
  | hash => contradiction
  | regex cs => contradiction

end Reader

/-- The forms that a text consists of, if it consists of forms. -/
def read (s : String) : Option (List Form) := (Reader.start.run s.toList).bind Reader.finish

/-- What a reader between two tokens makes of a text: these forms, the last of
which a delimiter may still have to end. -/
def Spells (cs : List Char) (forms : List Form) : Prop :=
  ∀ items enclosing, ∃ r, Reader.run ⟨.gap, items, enclosing⟩ cs = some r ∧
    r.settle = some ⟨.gap, items ++ forms, enclosing⟩

theorem spells_nil : Spells [] [] := fun _ _ => ⟨_, rfl, by simp [Reader.settle]⟩

/-- A token that ends by itself leaves the reader between two tokens. -/
theorem spells_of_run {cs : List Char} {f : Form}
    (h : ∀ items enclosing, Reader.run ⟨.gap, items, enclosing⟩ cs =
      some ⟨.gap, items ++ [f], enclosing⟩) : Spells cs [f] :=
  fun items enclosing => ⟨_, h items enclosing, rfl⟩

namespace Spells
variable {cs ds : List Char} {forms others : List Form}

theorem run_delimiter (h : Spells cs forms) {c : Char} (delimiter : isDelimiter c = true)
    (items : List Form) (enclosing : List (List Form)) :
    Reader.run ⟨.gap, items, enclosing⟩ (cs ++ [c]) =
      Reader.delimit ⟨.gap, items ++ forms, enclosing⟩ c := by
  obtain ⟨r, ran, settled⟩ := h items enclosing
  rw [Reader.run_append, ran, Option.bind_some, Reader.run_cons,
    Reader.step_of_settle settled delimiter]
  simp only [Reader.run_nil, Option.bind_fun_some]

/-- A blank separates two texts. -/
theorem append_blank (h : Spells cs forms) (k : Spells ds others) {c : Char}
    (blank : c = ' ' ∨ c = '\n') : Spells (cs ++ c :: ds) (forms ++ others) := by
  intro items enclosing
  have passed : Reader.run ⟨.gap, items, enclosing⟩ (cs ++ [c]) =
      some ⟨.gap, items ++ forms, enclosing⟩ := by
    rw [h.run_delimiter (by rcases blank with rfl | rfl <;> decide)]
    rcases blank with rfl | rfl <;> rfl
  obtain ⟨r, ran, settled⟩ := k (items ++ forms) enclosing
  refine ⟨r, ?_, by rw [settled, List.append_assoc]⟩
  rw [List.append_cons, Reader.run_append, passed]
  exact ran

theorem parenthesize (h : Spells cs forms) : Spells ('(' :: cs ++ [')']) [.list forms] := by
  apply spells_of_run
  intro items enclosing
  have opened : Reader.step ⟨.gap, items, enclosing⟩ '(' =
      some ⟨.gap, [], items :: enclosing⟩ := rfl
  rw [List.cons_append, Reader.run_cons, opened, Option.bind_some, h.run_delimiter (by decide)]
  rfl

theorem read (h : Spells s.toList forms) : read s = some forms := by
  obtain ⟨r, ran, settled⟩ := h [] []
  rw [Form.read, Reader.start, ran]
  simp [Reader.finish, settled]

end Spells
end Form
end SandboxProfile
