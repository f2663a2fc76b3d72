import SandboxProfile.Text.Blank
import SandboxProfile.Text.Digit

/-! Integers as text. A numeral of more than 4300 digits is refused before its
value is computed, and an integer of more digits is not written; sign, blanks and
underscores do not count. -/
namespace SandboxProfile.Text

def digitLimit : Nat := 4300

inductive IntegerFault where
  | notInteger
  | tooManyDigits (digits : Nat)
  deriving Repr, DecidableEq

/-- What is said of a numeral that is too long. -/
def tooManyDigitsMessage (digits : Nat) : String :=
  "Exceeds the limit (4300 digits) for integer string conversion: value has " ++
    toString digits ++ " digits; use sys.set_int_max_str_digits() to increase the limit"

/-- How many digits the decimal text of an integer has. -/
def digitCount (i : Int) : Nat := (Nat.toDigits 10 i.natAbs).length

/-- What is said of an integer that is too long to be written. -/
def unwritableMessage : String :=
  "Exceeds the limit (4300 digits) for integer string conversion; " ++
    "use sys.set_int_max_str_digits() to increase the limit"

def ofDigits (digits : List Nat) : Nat := digits.foldl (fun n d => 10 * n + d) 0

/-- Reads the sign in front of a numeral. -/
def takeSign : List Char → Bool × List Char
  | '-' :: cs => (true, cs)
  | '+' :: cs => (false, cs)
  | cs => (false, cs)

def applySign (negative : Bool) (n : Nat) : Int := if negative then -(n : Int) else n

/-- The digits of a numeral in which single underscores may separate digits. -/
def separatedDigits? : List Char → Option (List Nat)
  | [] => none
  | [c] => (digitValue? c).map ([·])
  | c :: '_' :: rest => do
    let d ← digitValue? c
    let ds ← separatedDigits? rest
    pure (d :: ds)
  | c :: rest => do
    let d ← digitValue? c
    let ds ← separatedDigits? rest
    pure (d :: ds)

def boundedInteger (negative : Bool) (digits : List Nat) : Except IntegerFault Int :=
  if digits.length > digitLimit then .error (.tooManyDigits digits.length)
  else .ok (applySign negative (ofDigits digits))

/-- Reads an integer in its widest form: white space around it, a sign, decimal
digits of any script, and single underscores between digits. The four separators
that are blanks and no white space may not stand around it. -/
def readInteger (s : String) : Except IntegerFault Int :=
  let (negative, body) := takeSign (trimList isWhiteSpace s.toList)
  match separatedDigits? body with
  | none => .error .notInteger
  | some digits => boundedInteger negative digits

def asciiDigit? (c : Char) : Option Nat :=
  if '0' ≤ c && c ≤ '9' then some (c.toNat - '0'.toNat) else none

/-- Reads an integer in its plain form: blanks around it, at most a minus sign,
and ASCII digits. -/
def readPlainInteger (s : String) : Except IntegerFault Int :=
  let cs := trimList isBlank s.toList
  let (negative, body) := match cs with
    | '-' :: rest => (true, rest)
    | _ => (false, cs)
  match body, body.mapM asciiDigit? with
  | _ :: _, some digits => boundedInteger negative digits
  | _, _ => .error .notInteger

end SandboxProfile.Text
