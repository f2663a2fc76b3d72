import SandboxProfile.Policy.Guard
import SandboxProfile.Proofs.Outcome
import SandboxProfile.Proofs.Text.Layout
import SandboxProfile.Proofs.Text.Quoted
import Std.Data.String.ToInt

/-! Descriptions of guards and their reader. It takes names, relations and quoted texts as they
come, and goes into the parentheses. A conjunction and a disjunction of one term are described
alike, and mean the same; apart from this a guard is read back from its description, so that
guards with one description hold alike. -/
namespace SandboxProfile.Guard

/-! ### The reader -/

/-- What a name that stands by itself consists of; letters, digits and underscores are such. -/
def isNameChar (c : Char) : Bool := c != ' ' && c != '(' && c != ')'

def isName (s : String) : Bool := s != "" && s.toList.all isNameChar

mutual
/-- Whether a description can be read: every row has a term, names are names, no toggle is named
as the guard that always holds, and no primitive closes the parenthesis around it. -/
def isLegible : Guard → Bool
  | .always | .stray _ => true
  | .compare param _ _ | .equals param _ | .isSet param => isName param
  | .isTrue param => isName param && param != "always"
  | .defined primitive => !primitive.toList.contains ')'
  | .all terms | .any terms => !terms.isEmpty && areLegible terms
  | .not term => isLegible term

def areLegible : List Guard → Bool
  | [] => true
  | g :: rest => isLegible g && areLegible rest
end

/-- What is said of a name behind it: a relation and a value, up to the parenthesis around. -/
def readRelation (name : String) (cs : List Char) : Option (Guard × List Char) :=
  let symbol := String.ofList (cs.takeWhile (· != ' '))
  let behind := (cs.dropWhile (· != ' ')).drop 1
  if symbol = "==" then
    (Text.unquote behind).map fun (value, rest) => (.equals name value, rest)
  else
    (Comparison.ofSymbol? symbol).bind fun op =>
      (String.ofList (behind.takeWhile (· != ')'))).toInt?.map fun value =>
        (.compare name op value, behind.dropWhile (· != ')'))

/-- What a word in front of a parenthesis says of the name behind it. -/
def readCall (word : String) (cs : List Char) : Option (Guard × List Char) :=
  let name := String.ofList (cs.takeWhile (· != ')'))
  let behind := (cs.dropWhile (· != ')')).drop 1
  if word = "set" then some (.isSet name, behind)
  else if word = "defined" then some (.defined name, behind)
  else none

mutual
/-- Reads a description up to its end or to the parenthesis around it. -/
def read : Nat → List Char → Option (Guard × List Char)
  | 0, _ => none
  | fuel + 1, cs =>
    let name := String.ofList (cs.takeWhile isNameChar)
    match cs.dropWhile isNameChar with
    | '(' :: rest =>
      if name = "" then
        (read fuel rest).bind fun (g, rest) =>
          let behind := rest.drop 1
          if " or (".toList.isPrefixOf behind then
            (readRow " or (".toList fuel behind).map fun (row, rest) => (.any (g :: row), rest)
          else
            (readRow " and (".toList fuel behind).map fun (row, rest) => (.all (g :: row), rest)
      else readCall name rest
    | ' ' :: '(' :: rest => (read fuel rest).map fun (g, rest) => (.not g, rest.drop 1)
    | ' ' :: rest => readRelation name rest
    | rest => some (if name = "always" then .always else .isTrue name, rest)

/-- Reads descriptions between parentheses, each of them behind a mark. -/
def readRow (mark : List Char) : Nat → List Char → Option (List Guard × List Char)
  | 0, _ => none
  | fuel + 1, cs =>
    if mark.isPrefixOf cs then
      (read fuel (cs.drop mark.length)).bind fun (g, rest) =>
        (readRow mark fuel (rest.drop 1)).map fun (row, rest) => (g :: row, rest)
    else some ([], cs)
end

/-! ### The guard that is read -/

mutual
/-- The guard that a description is read as: a disjunction of one term becomes a conjunction. -/
def normal : Guard → Guard
  | .all terms => .all (normals terms)
  | .any [term] => .all [term.normal]
  | .any terms => .any (normals terms)
  | .not term => .not term.normal
  | g => g

def normals : List Guard → List Guard
  | [] => []
  | g :: rest => g.normal :: normals rest
end

mutual
theorem evaluate_normal (store : Store) : ∀ g : Guard, g.normal.evaluate store = g.evaluate store
  | .always | .compare _ _ _ | .equals _ _ | .isTrue _ | .isSet _ | .defined _ | .stray _ => rfl
  | .all terms => evaluateAll_normals store terms
  | .any [] => rfl
  | .any [term] => by
    have same := evaluate_normal store term
    show evaluateAll store [term.normal] = evaluateAny store [term]
    rw [evaluateAll, evaluateAny, same]
    rcases term.evaluate store with fault | holds
    · rfl
    · cases holds <;> rfl
  | .any (first :: second :: rest) => evaluateAny_normals store (first :: second :: rest)
  | .not term => by
    show (term.normal.evaluate store).map (!·) = (term.evaluate store).map (!·)
    rw [evaluate_normal store term]

theorem evaluateAll_normals (store : Store) :
    ∀ terms : List Guard, evaluateAll store (normals terms) = evaluateAll store terms
  | [] => rfl
  | g :: rest => by
    rw [normals, evaluateAll_cons, evaluateAll_cons, evaluate_normal store g,
      evaluateAll_normals store rest]

theorem evaluateAny_normals (store : Store) :
    ∀ terms : List Guard, evaluateAny store (normals terms) = evaluateAny store terms
  | [] => rfl
  | g :: rest => by
    rw [normals, evaluateAny_cons, evaluateAny_cons, evaluate_normal store g,
      evaluateAny_normals store rest]
end

/-! ### Names, relations and calls -/

/-- A text ends, or goes on with a parenthesis that closes. -/
def Closes (rest : List Char) : Prop := ∀ c ∈ rest.head?, c = ')'

variable {name : String} {fuel : Nat} {rest cs : List Char}

theorem Closes.stop (closes : Closes rest) {p : Char → Bool} (parenthesis : p ')' = false) :
    ∀ c ∈ rest.head?, p c = false := by
  intro c first
  rw [closes c first]
  exact parenthesis

theorem Closes.not_isPrefixOf (closes : Closes rest) (mark : List Char) :
    (' ' :: mark).isPrefixOf rest = false := by
  cases rest with
  | nil => rfl
  | cons c cs =>
    obtain rfl := closes c rfl
    rfl

theorem isName_iff : isName name = true ↔
    name ≠ "" ∧ ∀ c ∈ name.toList, isNameChar c = true := by
  simp [isName]

/-- The reader takes a name as far as it goes. -/
theorem takes_name (named : isName name = true) (stop : ∀ c ∈ cs.head?, isNameChar c = false) :
    String.ofList ((name.toList ++ cs).takeWhile isNameChar) = name ∧
      (name.toList ++ cs).dropWhile isNameChar = cs := by
  have all := (isName_iff.mp named).2
  rw [Text.takeWhile_append_of_stop all stop, Text.dropWhile_append_of_stop all stop,
    String.ofList_toList]
  exact ⟨rfl, rfl⟩

theorem read_name (named : isName name = true) (closes : Closes rest) :
    read (fuel + 1) (name.toList ++ rest) =
      some (if name = "always" then .always else .isTrue name, rest) := by
  obtain ⟨word, behind⟩ := takes_name named (closes.stop rfl)
  rw [read, word, behind]
  cases rest with
  | nil => rfl
  | cons c cs =>
    obtain rfl := closes c rfl
    rfl

theorem read_relation (named : isName name = true) {c : Char} (noParenthesis : c ≠ '(') :
    read (fuel + 1) (name.toList ++ ' ' :: c :: cs) = readRelation name (c :: cs) := by
  obtain ⟨word, behind⟩ := takes_name named (Text.stop_cons (c := ' ') rfl (c :: cs))
  rw [read, word, behind]
  split
  · next same => exact absurd (List.cons.inj same).1 (by decide)
  · next same => exact absurd (List.cons.inj (List.cons.inj same).2).1 noParenthesis
  · next same => rw [(List.cons.inj same).2]
  · next other => exact absurd rfl (other _)

theorem read_call (named : isName name = true) :
    read (fuel + 1) (name.toList ++ '(' :: cs) = readCall name cs := by
  obtain ⟨word, behind⟩ := takes_name named (Text.stop_cons (c := '(') rfl cs)
  rw [read, word, behind]
  exact if_neg (isName_iff.mp named).1

theorem symbol_chars (op : Comparison) : ∃ c cs, op.symbol.toList = c :: cs ∧ c ≠ '(' ∧
    (∀ d ∈ op.symbol.toList, (d != ' ') = true) ∧ op.symbol ≠ "==" := by
  have unspaced : op.symbol.toList.all (· != ' ') = true := by cases op <;> rfl
  cases op <;> exact ⟨_, _, rfl, by decide, List.all_eq_true.mp unspaced, by decide⟩

theorem ofSymbol?_symbol (op : Comparison) : Comparison.ofSymbol? op.symbol = some op := by
  cases op <;> decide

theorem isDigit_of_mem_repr {n : Nat} {c : Char} (member : c ∈ n.repr.toList) :
    c.isDigit = true := by
  rw [Nat.repr_eq_ofList_toDigits, String.toList_ofList] at member
  exact Nat.isDigit_of_mem_toDigits (by decide) (by decide) member

/-- A numeral goes on up to a parenthesis. -/
theorem numeral_chars (value : Int) : ∀ c ∈ (toString value).toList, (c != ')') = true := by
  have digits (n : Nat) : ∀ c ∈ n.repr.toList, (c != ')') = true := by
    intro c member
    have digit := isDigit_of_mem_repr member
    refine bne_iff_ne.mpr ?_
    rintro rfl
    contradiction
  rw [Int.toString_eq_repr, Int.repr_eq_if]
  split
  · exact digits _
  · intro c member
    rw [String.toList_append, List.mem_append] at member
    rcases member with sign | digit
    · obtain rfl := List.mem_singleton.mp sign
      decide
    · exact digits _ c digit

theorem readRelation_compare (name : String) (op : Comparison) (value : Int)
    (closes : Closes rest) :
    readRelation name (op.symbol.toList ++ ' ' :: ((toString value).toList ++ rest)) =
      some (.compare name op value, rest) := by
  obtain ⟨-, -, -, -, chars, other⟩ := symbol_chars op
  have blank := Text.stop_cons (p := (· != ' ')) (c := ' ') rfl ((toString value).toList ++ rest)
  have symbol := Text.takeWhile_append_of_stop chars blank
  have behind := Text.dropWhile_append_of_stop chars blank
  have numeral := Text.takeWhile_append_of_stop (numeral_chars value) (closes.stop rfl)
  have after := Text.dropWhile_append_of_stop (numeral_chars value) (closes.stop rfl)
  have number : (toString value).toInt? = some value := Int.toInt?_repr value
  simp only [readRelation, symbol, behind, String.ofList_toList, List.drop_succ_cons,
    List.drop_zero, numeral, after]
  rw [if_neg other, ofSymbol?_symbol, Option.bind_some, number, Option.map_some]

theorem readRelation_equals (value : String) :
    readRelation name ('=' :: '=' :: ' ' :: ((Text.quoted value).toList ++ rest)) =
      some (.equals name value, rest) := by
  have symbol : ('=' :: '=' :: ' ' :: ((Text.quoted value).toList ++ rest)).takeWhile (· != ' ') =
      "==".toList := rfl
  have behind : ('=' :: '=' :: ' ' :: ((Text.quoted value).toList ++ rest)).dropWhile (· != ' ') =
      ' ' :: ((Text.quoted value).toList ++ rest) := rfl
  simp only [readRelation, symbol, behind, String.ofList_toList, List.drop_succ_cons,
    List.drop_zero]
  rw [if_pos trivial, Text.unquote_quoted, Option.map_some]

theorem readCall_eq {inner : String} (kept : ∀ c ∈ inner.toList, (c != ')') = true)
    (word : String) : readCall word (inner.toList ++ ')' :: rest) =
      if word = "set" then some (.isSet inner, rest)
      else if word = "defined" then some (.defined inner, rest)
      else none := by
  have parenthesis := Text.stop_cons (p := (· != ')')) (c := ')') rfl rest
  have name := Text.takeWhile_append_of_stop kept parenthesis
  have behind := Text.dropWhile_append_of_stop kept parenthesis
  simp only [readCall, name, behind, String.ofList_toList, List.drop_succ_cons, List.drop_zero]

/-! ### Whole descriptions -/

theorem describeTerms_cons {g : Guard} {terms : List Guard} {texts : List String}
    (described : describeTerms (g :: terms) = .ok texts) :
    ∃ text others, g.describe = .ok text ∧ describeTerms terms = .ok others ∧
      texts = ("(" ++ text ++ ")") :: others := by
  rw [describeTerms] at described
  obtain ⟨text, first, described⟩ := Outcome.bind_eq_ok.mp described
  obtain ⟨others, row, described⟩ := Outcome.bind_eq_ok.mp described
  exact ⟨text, others, first, row, (Except.ok.inj described).symm⟩

/-- The terms of a row behind the first one, each of them behind the word between two terms. -/
def rowChars (word : String) (texts : List String) : List Char :=
  texts.flatMap fun t => word.toList ++ t.toList

theorem rowChars_cons (word text : String) (texts : List String) :
    rowChars word (("(" ++ text ++ ")") :: texts) =
      (word.toList ++ ['(']) ++ (text.toList ++ ')' :: rowChars word texts) := by
  simp [rowChars]

/-- A description of a row begins with its first term. -/
theorem describe_row {g : Guard} {terms : List Guard} {word text : String}
    (described : (describeTerms (g :: terms)).map (Text.joinWith word) = .ok text) :
    ∃ inner others, g.describe = .ok inner ∧ describeTerms terms = .ok others ∧
      text.toList = '(' :: (inner.toList ++ ')' :: rowChars word others) := by
  obtain ⟨texts, row, rfl⟩ := Outcome.map_eq_ok.mp described
  obtain ⟨inner, others, first, behind, rfl⟩ := describeTerms_cons row
  refine ⟨inner, others, first, behind, ?_⟩
  rw [Text.joinWith_cons_toList]
  simp [rowChars]

theorem legible_row {g : Guard} {terms : List Guard}
    (legible : (!(g :: terms).isEmpty && areLegible (g :: terms)) = true) :
    g.isLegible = true ∧ areLegible terms = true := by
  simpa [areLegible] using legible

/-- There is fuel for the parts of a row. -/
theorem exists_less {inner row : List Char}
    (enough : ('(' :: (inner ++ ')' :: row)).length ≤ fuel) :
    ∃ less, fuel = less + 1 ∧ inner.length ≤ less ∧ row.length ≤ less := by
  simp only [List.length_append, List.length_cons] at enough
  exact ⟨fuel - 1, by omega, by omega, by omega⟩

/-- A term between parentheses, and what comes behind them. -/
theorem read_term {g : Guard} {cs behind : List Char}
    (first : read fuel cs = some (g, ')' :: behind)) : read (fuel + 1) ('(' :: cs) =
      if " or (".toList.isPrefixOf behind then
        (readRow " or (".toList fuel behind).map fun (row, rest) => (.any (g :: row), rest)
      else
        (readRow " and (".toList fuel behind).map fun (row, rest) => (.all (g :: row), rest) := by
  have name : ('(' :: cs).takeWhile isNameChar = [] := rfl
  have reached : ('(' :: cs).dropWhile isNameChar = '(' :: cs := rfl
  rw [read, name, reached]
  show (read fuel cs).bind _ = _
  rw [first, Option.bind_some]
  rfl

theorem read_negated {g : Guard} {cs : List Char} {behind : List Char}
    (inner : read fuel cs = some (g, ')' :: behind)) :
    read (fuel + 1) ("not (".toList ++ cs) = some (.not g, behind) := by
  have name : ("not (".toList ++ cs).takeWhile isNameChar = "not".toList := rfl
  have reached : ("not (".toList ++ cs).dropWhile isNameChar = ' ' :: '(' :: cs := rfl
  rw [read, name, reached]
  show (read fuel cs).map _ = _
  rw [inner, Option.map_some]
  rfl

theorem readRow_term {g : Guard} {mark cs behind : List Char}
    (first : read fuel cs = some (g, ')' :: behind)) : readRow mark (fuel + 1) (mark ++ cs) =
      (readRow mark fuel behind).map fun (row, rest) => (g :: row, rest) := by
  have next : mark.isPrefixOf (mark ++ cs) = true := by simp
  rw [readRow, if_pos next, List.drop_left, first, Option.bind_some]
  rfl

theorem readRow_end (closes : Closes rest) (mark : List Char) :
    readRow (' ' :: mark) (fuel + 1) rest = some ([], rest) := by
  rw [readRow, if_neg (Bool.eq_false_iff.mp (closes.not_isPrefixOf mark))]

/-- Between the terms of a conjunction, and behind the last one, no disjunction begins. -/
theorem not_disjunction (closes : Closes rest) (others : List String) :
    " or (".toList.isPrefixOf (rowChars " and " others ++ rest) = false := by
  cases others with
  | nil => exact closes.not_isPrefixOf _
  | cons text texts => rfl

theorem read_all {g : Guard} {inner chars : List Char} {row : List Guard}
    (noDisjunction : " or (".toList.isPrefixOf chars = false)
    (term : read fuel (inner ++ ')' :: chars) = some (g, ')' :: chars))
    (behind : readRow " and (".toList fuel chars = some (row, rest)) :
    read (fuel + 1) ('(' :: (inner ++ ')' :: chars)) = some (.all (g :: row), rest) := by
  rw [read_term term, if_neg (Bool.eq_false_iff.mp noDisjunction), behind, Option.map_some]

theorem read_any {g : Guard} {inner chars : List Char} {row : List Guard}
    (more : " or (".toList <+: chars)
    (term : read fuel (inner ++ ')' :: chars) = some (g, ')' :: chars))
    (behind : readRow " or (".toList fuel chars = some (row, rest)) :
    read (fuel + 1) ('(' :: (inner ++ ')' :: chars)) = some (.any (g :: row), rest) := by
  have disjunction := List.isPrefixOf_iff_prefix.mpr more
  rw [read_term term, if_pos disjunction, behind, Option.map_some]

theorem closes_cons (behind : List Char) : Closes (')' :: behind) := by
  intro c first
  exact (Option.some.inj first).symm

mutual
/-- A description is read back with any fuel that is longer, by induction on the guard. What comes
behind has to close the parenthesis, since a name and a row end there. -/
theorem read_describe : ∀ (g : Guard) {text : String} {fuel : Nat} {rest : List Char},
    g.isLegible = true → g.describe = .ok text → text.toList.length ≤ fuel → Closes rest →
    read (fuel + 1) (text.toList ++ rest) = some (g.normal, rest)
  | .always, text, fuel, rest, _, described, _, closes => by
    obtain rfl := Except.ok.inj described
    exact read_name rfl closes
  | .compare param op value, text, fuel, rest, legible, described, _, closes => by
    obtain rfl := Except.ok.inj described
    obtain ⟨c, cs, first, noParenthesis, -⟩ := symbol_chars op
    have relation := readRelation_compare param op value closes
    rw [first] at relation
    have shape : (s!"{param} {op.symbol} {value}").toList ++ rest =
        param.toList ++ ' ' :: c :: (cs ++ ' ' :: ((toString value).toList ++ rest)) := by
      simp [toString, first]
    rw [shape, read_relation legible noParenthesis]
    exact relation
  | .equals param value, text, fuel, rest, legible, described, _, closes => by
    obtain rfl := Except.ok.inj described
    have shape : (s!"{param} == {Text.quoted value}").toList ++ rest =
        param.toList ++ ' ' :: '=' :: '=' :: ' ' :: ((Text.quoted value).toList ++ rest) := by
      simp [toString]
    rw [shape, read_relation legible (by decide), readRelation_equals]
    rfl
  | .isTrue param, text, fuel, rest, legible, described, _, closes => by
    obtain rfl := Except.ok.inj described
    obtain ⟨named, other⟩ := Bool.and_eq_true_iff.mp legible
    rw [read_name named closes, if_neg (bne_iff_ne.mp other)]
    rfl
  | .isSet param, text, fuel, rest, legible, described, _, closes => by
    obtain rfl := Except.ok.inj described
    have shape : (s!"set({param})").toList ++ rest =
        "set".toList ++ '(' :: (param.toList ++ ')' :: rest) := by
      simp [toString]
    have kept : ∀ c ∈ param.toList, (c != ')') = true := by
      intro c member
      have plain := (isName_iff.mp legible).2 c member
      exact (Bool.and_eq_true_iff.mp plain).2
    rw [shape, read_call rfl, readCall_eq kept]
    rfl
  | .defined primitive, text, fuel, rest, legible, described, _, closes => by
    obtain rfl := Except.ok.inj described
    have shape : (s!"defined({primitive})").toList ++ rest =
        "defined".toList ++ '(' :: (primitive.toList ++ ')' :: rest) := by
      simp [toString]
    have unclosed : ')' ∉ primitive.toList := by simpa [isLegible] using legible
    have kept : ∀ c ∈ primitive.toList, (c != ')') = true := by
      intro c member
      exact bne_iff_ne.mpr (ne_of_mem_of_not_mem member unclosed)
    rw [shape, read_call rfl, readCall_eq kept]
    rfl
  | .all [], _, _, _, legible, _, _, _ => nomatch legible
  | .any [], _, _, _, legible, _, _, _ => nomatch legible
  | .all (g :: terms), text, fuel, rest, legible, described, enough, closes => by
    obtain ⟨here, there⟩ := legible_row legible
    obtain ⟨inner, others, first, row, shape⟩ := describe_row described
    obtain ⟨fuel, rfl, short, shorter⟩ := exists_less (shape ▸ enough)
    have term := read_describe g here first short (closes_cons (rowChars " and " others ++ rest))
    have behind := readRow_describe terms there row (rfl : " and ".toList = _) shorter closes
    rw [shape, List.cons_append, List.append_assoc, List.cons_append]
    exact read_all (not_disjunction closes others) term behind
  | .any (g :: terms), text, fuel, rest, legible, described, enough, closes => by
    obtain ⟨here, there⟩ := legible_row legible
    obtain ⟨inner, others, first, row, shape⟩ := describe_row described
    obtain ⟨fuel, rfl, short, shorter⟩ := exists_less (shape ▸ enough)
    have term := read_describe g here first short (closes_cons (rowChars " or " others ++ rest))
    have behind := readRow_describe terms there row (rfl : " or ".toList = _) shorter closes
    rw [shape, List.cons_append, List.append_assoc, List.cons_append]
    cases terms with
    | nil =>
      -- One term alone shows no word between terms, so it is read as a conjunction.
      obtain rfl := Except.ok.inj row
      exact read_all (closes.not_isPrefixOf _) term (readRow_end closes _)
    | cons second terms =>
      obtain ⟨text, others, -, -, rfl⟩ := describeTerms_cons row
      refine read_any ?_ term behind
      rw [rowChars_cons, List.append_assoc, List.append_assoc]
      exact List.prefix_append _ _
  | .not term, text, fuel, rest, legible, described, enough, closes => by
    obtain ⟨inner, first, rfl⟩ := Outcome.map_eq_ok.mp described
    have shape : (s!"not ({inner})").toList ++ rest =
        "not (".toList ++ (inner.toList ++ ')' :: rest) := by
      simp [toString]
    have shorter : inner.toList.length < fuel := by
      simp [toString] at enough
      omega
    obtain ⟨fuel, rfl⟩ : ∃ less, fuel = less + 1 := ⟨fuel - 1, by omega⟩
    have read := read_describe term legible first (Nat.le_of_lt_succ shorter) (closes_cons rest)
    rw [shape, read_negated read]
    rfl
  | .stray _, _, _, _, _, described, _, _ => nomatch described

theorem readRow_describe : ∀ (terms : List Guard) {texts : List String} {word : String}
    {mark : List Char} {fuel : Nat} {rest : List Char},
    areLegible terms = true → describeTerms terms = .ok texts → word.toList = ' ' :: mark →
    (rowChars word texts).length ≤ fuel → Closes rest →
    readRow (word.toList ++ ['(']) (fuel + 1) (rowChars word texts ++ rest) =
      some (normals terms, rest)
  | [], texts, word, mark, fuel, rest, _, described, begins, _, closes => by
    obtain rfl := Except.ok.inj described
    rw [begins]
    exact readRow_end closes _
  | g :: terms, texts, word, mark, fuel, rest, legible, described, begins, enough, closes => by
    obtain ⟨here, there⟩ := Bool.and_eq_true_iff.mp legible
    obtain ⟨text, others, first, row, rfl⟩ := describeTerms_cons described
    rw [rowChars_cons] at enough ⊢
    simp only [List.length_append, List.length_cons, begins] at enough
    obtain ⟨fuel, rfl⟩ : ∃ less, fuel = less + 1 := ⟨fuel - 1, by omega⟩
    have short : text.toList.length ≤ fuel := by omega
    have shorter : (rowChars word others).length ≤ fuel := by omega
    have term := read_describe g here first short (closes_cons (rowChars word others ++ rest))
    have behind := readRow_describe terms there row begins shorter closes
    rw [List.append_assoc, List.append_assoc text.toList, List.cons_append, readRow_term term,
      behind, Option.map_some]
    rfl
end

/-- Guards with one description hold alike in every store, or fail alike. -/
theorem evaluate_eq_of_describe_eq {g h : Guard} {text : String} (plain : g.isLegible = true)
    (alsoPlain : h.isLegible = true) (described : g.describe = .ok text)
    (alike : h.describe = .ok text) (store : Store) : g.evaluate store = h.evaluate store := by
  have closes : Closes [] := nofun
  have first := read_describe g plain described (Nat.le_refl _) closes
  have second := read_describe h alsoPlain alike (Nat.le_refl _) closes
  have same : g.normal = h.normal := congrArg Prod.fst (Option.some.inj (first.symm.trans second))
  rw [← evaluate_normal store g, same, evaluate_normal store h]

/-- Terms whose texts look like the end of a parenthesis and the word between two terms. -/
def quotingTerms : List Guard := [.equals "NAME" "it's) or (B", .not (.compare "LEVEL" .ge (-3))]

/-- A row of one term in front of another term. -/
def quotingGuard (row : List Guard → Guard) : Guard :=
  .all [row [.all quotingTerms], .defined "a b"]

def quotingStore : Store :=
  ⟨none, [⟨"NAME", .string, some (.text "it's) or (B")⟩,
    ⟨"LEVEL", .int, some (.number (-7))⟩], some ["a b"], true⟩

theorem evaluate_eq_quotingGuard :
    ((quotingGuard .any).isLegible = true ∧ (quotingGuard .all).isLegible = true ∧
      ∃ text, (quotingGuard .any).describe = .ok text ∧ (quotingGuard .all).describe = .ok text) ∧
    (quotingGuard .any).evaluate quotingStore = (quotingGuard .all).evaluate quotingStore := by
  have first : (quotingGuard .any).describe = .ok
      "(((NAME == \"it's) or (B\") and (not (LEVEL >= -3)))) and (defined(a b))" := by cbv
  have second : (quotingGuard .all).describe = .ok
      "(((NAME == \"it's) or (B\") and (not (LEVEL >= -3)))) and (defined(a b))" := by cbv
  have same := evaluate_eq_of_describe_eq rfl rfl first second quotingStore
  exact ⟨⟨rfl, rfl, _, first, second⟩, same⟩

end SandboxProfile.Guard
