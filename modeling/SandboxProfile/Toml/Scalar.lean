import SandboxProfile.Moment
import SandboxProfile.Number.Reading
import SandboxProfile.Toml.Scan

/-! Numbers, dates and times. Each reads as far as it can; what follows is checked by
whoever reads on. -/
namespace SandboxProfile.Toml
open Scan Number

/-- Characters of a class with single underscores between them. -/
def groupedRest (p : Char → Bool) : List Char → List Char
  | '_' :: c :: rest => if p c then '_' :: c :: groupedRest p rest else []
  | c :: rest => if p c then c :: groupedRest p rest else []
  | [] => []

def grouped (p : Char → Bool) : List Char → List Char
  | c :: rest => if p c then c :: groupedRest p rest else []
  | [] => []

def isDecimal (c : Char) : Bool := '0' ≤ c && c ≤ '9'

def digitValue (c : Char) : Nat :=
  if isDecimal c then c.toNat - 0x30
  else if 'a' ≤ c then c.toNat - 0x57
  else c.toNat - 0x37

def ofBase (base : Nat) (cs : List Char) : Nat :=
  (cs.filter (· ≠ '_')).foldl (fun n c => base * n + digitValue c) 0

/-- The bases that a letter behind a zero names, with their digits. -/
def bases : List (Char × Nat × (Char → Bool)) :=
  [('x', 16, fun c => isDecimal c || ('a' ≤ c && c ≤ 'f') || ('A' ≤ c && c ≤ 'F')),
    ('b', 2, fun c => c = '0' || c = '1'), ('o', 8, fun c => '0' ≤ c && c ≤ '7')]

/-- An integer in another base than ten, if one comes next. -/
def basedInteger? : Scan (Option Value) := do
  match ← get with
  | '0' :: mark :: rest =>
    match bases.lookup mark with
    | none => pure none
    | some (base, p) =>
      match grouped p rest with
      | [] => pure none
      | digits =>
        skip (2 + digits.length)
        pure (some (.int (ofBase base digits)))
  | _ => pure none

def wholePart : List Char → List Char
  | '0' :: _ => ['0']
  | cs => grouped isDecimal cs

def fractionPart : List Char → List Char
  | '.' :: rest =>
    match grouped isDecimal rest with
    | [] => []
    | digits => '.' :: digits
  | _ => []

def exponentPart : List Char → List Char
  | [] => []
  | mark :: rest =>
    if mark = 'e' || mark = 'E' then
      let (sign, body) := match rest with
        | '+' :: body => (['+'], body)
        | '-' :: body => (['-'], body)
        | body => ([], body)
      match grouped isDecimal body with
      | [] => []
      | digits => mark :: sign ++ digits
    else []

/-- A decimal number, if one comes next. It is an integer unless it has a fraction or
an exponent. -/
def decimal? : Scan (Option Value) := do
  let cs ← get
  let (negative, body) := Text.takeSign cs
  let whole := wholePart body
  if whole.isEmpty then pure none
  else
    let rest := body.drop whole.length
    let fraction := fractionPart rest
    let rest := rest.drop fraction.length
    let exponent := exponentPart rest
    set (rest.drop exponent.length)
    if fraction.isEmpty && exponent.isEmpty then
      let digits := whole.filter (· ≠ '_')
      if digits.length > Text.digitLimit then throw (.tooManyDigits digits.length)
      pure (some (.int (Text.applySign negative (ofBase 10 whole))))
    else
      let sign := if negative then ['-'] else []
      match Binary64.ofText? (String.ofList (sign ++ whole ++ fraction ++ exponent)) with
      | some x => pure (some (.float x))
      | none => malformed

/-- The words for infinity and for no number, with a sign or without. -/
def wordNumber? : Scan (Option Value) := do
  let (negative, body) := Text.takeSign (← get)
  if ['i', 'n', 'f'].isPrefixOf body then
    set (body.drop 3)
    pure (some (.float (.infinite negative)))
  else if ['n', 'a', 'n'].isPrefixOf body then
    set (body.drop 3)
    pure (some (.float .nan))
  else pure none

/-! ### Dates and times -/

/-- A number of exactly so many digits, within bounds, and what follows. -/
def field? (width least most : Nat) (cs : List Char) : Option (Nat × List Char) :=
  let digits := cs.take width
  let n := ofBase 10 digits
  if digits.length = width && digits.all isDecimal && least ≤ n && n ≤ most then
    some (n, cs.drop width)
  else none

def mark? (c : Char) : List Char → Option (List Char)
  | d :: rest => if c = d then some rest else none
  | [] => none

/-- A fraction of a second, of which six digits count. -/
def fraction (cs : List Char) : Nat × List Char :=
  match cs with
  | '.' :: rest =>
    let digits := rest.takeWhile isDecimal
    if digits.isEmpty then (0, cs)
    else
      let six := digits.take 6
      (ofBase 10 (six ++ List.replicate (6 - six.length) '0'), rest.drop digits.length)
  | _ => (0, cs)

def clock? (cs : List Char) : Option (Clock × List Char) := do
  let (hour, rest) ← field? 2 0 23 cs
  let (minute, rest) ← mark? ':' rest >>= field? 2 0 59
  let (second, rest) ← mark? ':' rest >>= field? 2 0 59
  let (microsecond, rest) := fraction rest
  some (⟨hour, minute, second, microsecond, none⟩, rest)

def offset? (cs : List Char) : Option (Int × List Char) :=
  match cs with
  | 'Z' :: rest | 'z' :: rest => some (0, rest)
  | sign :: rest => do
    if sign ≠ '+' && sign ≠ '-' then none
    let (hours, rest) ← field? 2 0 23 rest
    let (minutes, rest) ← mark? ':' rest >>= field? 2 0 59
    some (Text.applySign (sign = '-') (3600 * hours + 60 * minutes), rest)
  | [] => none

def date? (cs : List Char) : Option (Moment × List Char) := do
  let (year, rest) ← field? 4 0 9999 cs
  let (month, rest) ← mark? '-' rest >>= field? 2 1 12
  let (day, rest) ← mark? '-' rest >>= field? 2 1 31
  some (⟨year, month, day, none⟩, rest)

/-- A date, with the time of day behind it if there is one. -/
def moment? (cs : List Char) : Option (Moment × List Char) := do
  let (date, rest) ← date? cs
  match rest with
  | c :: tail =>
    match (if c = 'T' || c = 't' || c = ' ' then clock? tail else none) with
    | none => some (date, rest)
    | some (clock, rest) =>
      match offset? rest with
      | none => some ({ date with clock := some clock }, rest)
      | some (offset, rest) =>
        some ({ date with clock := some { clock with offset := some offset } }, rest)
  | [] => some (date, rest)

/-- A date or a time, if one comes next. -/
def timeValue? : Scan (Option Value) := do
  match moment? (← get) with
  | some (m, rest) =>
    if m.fault?.isSome then malformed
    set rest
    pure (some (.moment (if m.clock.isSome then .dateTime else .date) m.literal))
  | none =>
    match clock? (← get) with
    | some (c, rest) =>
      set rest
      pure (some (.moment .time c.literal))
    | none => pure none

/-- The first of several readings that finds something. -/
def firstOf : List (Scan (Option Value)) → Scan Value
  | [] => malformed
  | read :: others => do
    match ← read with
    | some v => pure v
    | none => firstOf others

end SandboxProfile.Toml
