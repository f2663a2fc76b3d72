import SandboxProfile.Number.Arithmetic
import SandboxProfile.Number.Reading
import SandboxProfile.Text.Base64
import SandboxProfile.Value
import SandboxProfile.Yaml.Moment

/-! The types of nodes. A tag names the type, and the text of a plain scalar without
a tag decides on it: words for truth values and for nothing, numbers in four bases
and in base sixty, and points in time. -/
namespace SandboxProfile.Yaml
open SandboxProfile.Text Number

inductive Tag where
  | null
  | bool
  | int
  | float
  | text
  | binary
  | moment
  | sequence
  | mapping
  | set
  | orderedMap
  | pairs
  /-- The key that brings in the entries of another mapping. -/
  | merge
  /-- The key whose value stands for the mapping where a scalar is needed. -/
  | standIn
  | unknown
  deriving Repr, DecidableEq

namespace Tag

def names : List (String × Tag) :=
  [("null", .null), ("bool", .bool), ("int", .int), ("float", .float), ("str", .text),
    ("binary", .binary), ("timestamp", .moment), ("seq", .sequence), ("map", .mapping),
    ("set", .set), ("omap", .orderedMap), ("pairs", .pairs), ("merge", .merge), ("value", .standIn)]

def namesStart : String := "tag:yaml.org,2002:"

def ofName (full : String) : Tag :=
  if full.startsWith namesStart then (names.lookup (full.drop namesStart.length).toString).getD .unknown
  else .unknown

def isCollection : Tag → Bool
  | .sequence | .mapping | .set | .orderedMap | .pairs => true
  | _ => false

end Tag

/-! ### Plain scalars -/

def truthWords : List (String × Bool) :=
  [("yes", true), ("no", false), ("true", true), ("false", false), ("on", true), ("off", false)]

/-- A word in small letters, with a capital first letter, or in capitals. -/
def spellings (word : String) : List String :=
  [word, match word.toList with
    | c :: rest => String.ofList (c.toUpper :: rest)
    | [] => "", upper word]

def isDecimal (c : Char) : Bool := '0' ≤ c && c ≤ '9'

def isDecimalOrGap (c : Char) : Bool := isDecimal c || c = '_'

/-- Digits and underscores, a digit first. -/
def isWhole : List Char → Bool
  | c :: rest => isDecimal c && rest.all isDecimalOrGap
  | [] => false

/-- A place of a number in base sixty, after the first one. -/
def isSixtieth : List Char → Bool
  | [c] => isDecimal c
  | [c, d] => '0' ≤ c && c ≤ '5' && isDecimal d
  | _ => false

def isExponent : List Char → Bool
  | [] => true
  | mark :: sign :: digits =>
    (mark = 'e' || mark = 'E') && (sign = '+' || sign = '-') && !digits.isEmpty &&
      digits.all isDecimal
  | _ => false

def isInteger (cs : List Char) : Bool :=
  match (takeSign cs).2 with
  | '0' :: 'b' :: rest => !rest.isEmpty && rest.all fun c => c = '0' || c = '1' || c = '_'
  | '0' :: 'x' :: rest =>
    !rest.isEmpty && rest.all fun c =>
      isDecimalOrGap c || ('a' ≤ c && c ≤ 'f') || ('A' ≤ c && c ≤ 'F')
  | '0' :: rest => rest.all fun c => ('0' ≤ c && c ≤ '7') || c = '_'
  | body =>
    match splitList ':' body with
    | whole :: places => isWhole whole && places.all isSixtieth
    | [] => false

def isFraction (cs : List Char) : Bool :=
  let body := (takeSign cs).2
  let signed := body.length < cs.length
  let whole := body.takeWhile (· ≠ '.')
  match body.drop whole.length with
  | [] => false
  | _ :: tail =>
    let digits := tail.takeWhile isDecimalOrGap
    let exponent := tail.drop digits.length
    let word := String.ofList tail
    if whole.isEmpty then
      (!signed && isWhole digits && isExponent exponent) || (spellings "inf").contains word ||
        (!signed && ["nan", "NaN", "NAN"].contains word)
    else
      match splitList ':' whole with
      | [w] => isWhole w && isExponent exponent
      | w :: places => isWhole w && places.all isSixtieth && exponent.isEmpty
      | [] => false

/-- The type of a plain scalar. -/
def Tag.ofPlain (s : String) : Tag :=
  let cs := s.toList
  if s == "" || s == "~" || (spellings "null").contains s then .null
  else if (truthWords.flatMap fun (w, _) => spellings w).contains s then .bool
  else if isFraction cs then .float
  else if isInteger cs then .int
  else if (Moment.ofText? true s).isSome then .moment
  else if s == "<<" then .merge
  else if s == "=" then .standIn
  else .text

/-! ### The values of scalars -/

/-- The value of a digit in bases up to thirty-six. -/
def digitInBase? (base : Nat) (c : Char) : Option Nat :=
  let value := (digitValue? c).orElse fun _ =>
    if 'a' ≤ c && c ≤ 'z' then some (c.toNat - 0x61 + 10)
    else if 'A' ≤ c && c ≤ 'Z' then some (c.toNat - 0x41 + 10)
    else none
  value.filter (· < base)

/-- The letter that may stand behind a zero to name the base. -/
def baseMark : Nat → Char
  | 2 => 'b'
  | 8 => 'o'
  | _ => 'x'

/-- Reads an integer in a base that is a power of two. -/
def readInBase (base : Nat) (cs : List Char) : Except Fault Int :=
  let (negative, body) := takeSign (trimList isWhiteSpace cs)
  let body := match body with
    | '0' :: m :: rest => if m.toLower = baseMark base then rest else body
    | _ => body
  match body, body.mapM (digitInBase? base) with
  | _ :: _, some digits => .ok (applySign negative (digits.foldl (fun n d => base * n + d) 0))
  | _, _ => .error (.notInteger base (String.ofList cs))

def readDecimal (cs : List Char) : Except Fault Int :=
  match readInteger (String.ofList cs) with
  | .ok i => .ok i
  | .error .notInteger => .error (.notInteger 10 (String.ofList cs))
  | .error (.tooManyDigits n) => .error (.tooManyDigits n)

def magnitude (body : List Char) : Except Fault Int :=
  match body with
  | [] => .error .emptyNumber
  | ['0'] => .ok 0
  | '0' :: 'b' :: rest => readInBase 2 rest
  | '0' :: 'x' :: rest => readInBase 16 rest
  | '0' :: _ => readInBase 8 body
  | _ =>
    if body.contains ':' then do
      let places ← (splitList ':' body).mapM readDecimal
      pure (places.foldl (fun n d => 60 * n + d) 0)
    else readDecimal body

/-- The text of a number without its underscores, split into sign and rest. -/
def numeralParts (s : String) : Except Fault (Bool × List Char) :=
  match s.toList.filter (· ≠ '_') with
  | [] => .error .emptyNumber
  | cs => .ok (takeSign cs)

def integerValue (s : String) : Except Fault Int := do
  let (negative, body) ← numeralParts s
  let i ← magnitude body
  pure (if negative then -i else i)

def readNumber (cs : List Char) : Except Fault Binary64 :=
  match Binary64.ofText? (String.ofList cs) with
  | some x => .ok x
  | none => .error (.notNumber (String.ofList cs))

/-- A number in base sixty, from its last place to its first. -/
def ofSixtieths : List Binary64 → Int → Binary64 → Binary64
  | [], _, sum => sum
  | x :: rest, unit, sum => ofSixtieths rest (60 * unit) (sum.add (x.mul (.ofInt unit)))

def numberValue (s : String) : Except Fault Binary64 := do
  let (negative, body) ← numeralParts (lower s)
  let x ← if body == ".inf".toList then pure (.infinite false)
    else if body == ".nan".toList then pure .nan
    else if body.contains ':' then do
      let places ← (splitList ':' body).mapM readNumber
      pure (ofSixtieths places.reverse 1 (.finite false 0 Binary64.leastExponent))
    else readNumber body
  pure (if negative then x.negate else x)

def momentValue (s : String) : Except Fault Value :=
  match Moment.ofText? false s with
  | none => .error .notMoment
  | some m =>
    match m.fault? with
    | some fault => .error (.noSuchMoment fault)
    | none => .ok (.moment (if m.clock.isSome then .dateTime else .date) m.literal)

/-- The value of a scalar of some type. -/
def scalarValue (tag : Tag) (s : String) : Except Fault Value :=
  match tag with
  | .null => .ok .null
  | .bool =>
    match truthWords.lookup (lower s) with
    | some b => .ok (.bool b)
    | none => .error (.notTruthValue (lower s))
  | .int => (integerValue s).map .int
  | .float => (numberValue s).map .float
  | .text => .ok (.text s)
  | .binary =>
    if s.toList.all (·.toNat < 128) then
      match Base64.decode s with
      | some bytes => .ok (.bytes bytes)
      | none => .error .malformed
    else .error .malformed
  | .moment => momentValue s
  | _ => .error .malformed

end SandboxProfile.Yaml
