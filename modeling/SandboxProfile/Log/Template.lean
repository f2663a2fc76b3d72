import SandboxProfile.Value

/-! Templates of log messages. A percent sign starts a conversion, which shows one of some
values as text or as an integer. A template that does not go with its values has no
message. -/
namespace SandboxProfile

structure Conversion where
  key : Option String := none
  left : Bool := false
  zeros : Bool := false
  plus : Bool := false
  space : Bool := false
  marked : Bool := false
  width : Nat := 0
  /-- The greatest length of a text, or the least number of digits. -/
  precision : Option Nat := none

namespace Conversion

def fill (c : Char) (n : Nat) : String := String.ofList (List.replicate n c)

/-- A text in its column, on the right unless told otherwise. -/
def placed (c : Conversion) (s : String) : String :=
  if c.left then Text.padRight c.width s else fill ' ' (c.width - s.length) ++ s

def text (c : Conversion) (s : String) : String :=
  c.placed (match c.precision with
    | some n => String.ofList (s.toList.take n)
    | none => s)

def digits (base : Nat) (n : Nat) : String := String.ofList (Nat.toDigits base n)

/-- An integer: its sign, the mark of its base, and its digits. -/
def integer (c : Conversion) (mark : String) (shown : String) (negative : Bool) : String :=
  let sign := if negative then "-" else if c.plus then "+" else if c.space then " " else ""
  let front := sign ++ if c.marked then mark else ""
  let body := fill '0' (c.precision.getD 0 - shown.length) ++ shown
  let room := c.width - (front.length + body.length)
  if c.zeros && !c.left then front ++ fill '0' room ++ body else c.placed (front ++ body)

/-- The integer that a value is cut down to. -/
def truncated? : Value → Option Int
  | .float (.finite negative m e) =>
    let n := if e ≥ 0 then m * Nat.pow 2 e.toNat else m / Nat.pow 2 (-e).toNat
    some (if negative then -(n : Int) else n)
  | .float _ => none
  | v => v.numeral?

def integer? : Value → Option Int
  | .float _ => none
  | v => v.numeral?

def character? : Value → Option String
  | .text s => if s.length = 1 then some s else none
  | v => do
    let i ← integer? v
    if 0 ≤ i && decide i.toNat.isValidChar then some (String.singleton (Char.ofNat i.toNat)) else none

/-- A text in which every character that is not ASCII is written by its code point. -/
def asciiOnly (s : String) : String :=
  String.ofList (s.toList.flatMap fun c =>
    if c.toNat < 0x80 then [c]
    else if c.toNat < 0x100 then '\\' :: 'x' :: Text.hexFixed 2 c.toNat
    else if c.toNat < 0x10000 then '\\' :: 'u' :: Text.hexFixed 4 c.toNat
    else '\\' :: 'U' :: Text.hexFixed 8 c.toNat)

/-- A value as the letter of a conversion asks for it. -/
def shown? (c : Conversion) (letter : Char) (v : Value) : Option String :=
  let inBase (base : Nat) (mark : String) (i : Option Int) : Option String :=
    i.map fun i => c.integer mark (digits base i.natAbs) (i < 0)
  match letter with
  | 's' => some (c.text v.display)
  | 'r' => some (c.text v.literal)
  | 'a' => some (c.text (asciiOnly v.literal))
  | 'd' | 'i' | 'u' => inBase 10 "" (truncated? v)
  | 'x' => inBase 16 "0x" (integer? v)
  | 'X' => (integer? v).map fun i => c.integer "0X" (digits 16 i.natAbs).toUpper (i < 0)
  | 'o' => inBase 8 "0o" (integer? v)
  | 'c' => (character? v).map c.text
  | _ => none

end Conversion

namespace LogTemplate

/-- The values that are still to be shown, and the table that keys are looked up in. -/
structure Arguments where
  rest : List Value
  table : Option (List (Value × Value))

def Arguments.next? (a : Arguments) : Option (Value × Arguments) :=
  match a.rest with
  | v :: rest => some (v, { a with rest := rest })
  | [] => none

/-- Reads a number, which may be that of a value. -/
def amount? (a : Arguments) : List Char → Option (Option Int × Arguments × List Char)
  | '*' :: cs => do
    let (v, a) ← a.next?
    let i ← Conversion.integer? v
    some (some i, a, cs)
  | cs =>
    let digits := cs.takeWhile Char.isDigit
    let n := digits.foldl (fun n d => 10 * n + (d.toNat - '0'.toNat)) 0
    some (if digits.isEmpty then none else some n, a, cs.dropWhile Char.isDigit)

def withFlag (c : Conversion) : Char → Conversion
  | '-' => { c with left := true }
  | '0' => { c with zeros := true }
  | '+' => { c with plus := true }
  | ' ' => { c with space := true }
  | _ => { c with marked := true }

def isFlag (c : Char) : Bool := "-0+ #".toList.contains c

/-- What stands in a pair of parentheses, of which the first one has been read. -/
def key? (depth : Nat) : List Char → Option (List Char × List Char)
  | [] => none
  | ')' :: cs =>
    if depth = 0 then some ([], cs) else (key? (depth - 1) cs).map fun (k, cs) => (')' :: k, cs)
  | c :: cs =>
    (key? (if c = '(' then depth + 1 else depth) cs).map fun (k, cs) => (c :: k, cs)

/-- Reads a conversion up to its letter. -/
def conversion? (a : Arguments) (cs : List Char) : Option (Conversion × Arguments × List Char) := do
  let (key, cs) ← match cs with
    | '(' :: cs => (key? 0 cs).map fun (k, cs) => (some (String.ofList k), cs)
    | cs => some (none, cs)
  let c := (cs.takeWhile isFlag).foldl withFlag ({ key := key } : Conversion)
  let (width, a, cs) ← amount? a (cs.dropWhile isFlag)
  let width := width.getD 0
  let c := { c with left := c.left || decide (width < 0), width := width.natAbs }
  let (c, a, cs) ← match cs with
    | '.' :: cs => do
      let (precision, a, cs) ← amount? a cs
      some ({ c with precision := some (precision.getD 0).toNat }, a, cs)
    | cs => some (c, a, cs)
  some (c, a, cs.dropWhile fun c => c = 'h' || c = 'l' || c = 'L')

/-- The value that a conversion shows. -/
def argument? (c : Conversion) (a : Arguments) : Option (Value × Arguments) :=
  match c.key with
  | some key => a.table.bind fun entries => (Value.entry? key entries).map (·, a)
  | none => a.next?

/-- Fills in a template. Every value must have been shown in the end, unless there is only
a table. -/
def fillIn? : Nat → Arguments → List Char → Option String
  | 0, _, _ => none
  | _ + 1, a, [] => if a.rest.isEmpty || a.table.isSome then some "" else none
  | fuel + 1, a, '%' :: cs => do
    let (c, a, cs) ← conversion? a cs
    match cs with
    | [] => none
    | '%' :: cs => (fillIn? fuel a cs).map ("%" ++ ·)
    | letter :: cs =>
      let (v, a) ← argument? c a
      let shown ← c.shown? letter v
      (fillIn? fuel a cs).map (shown ++ ·)
  | fuel + 1, a, c :: cs => (fillIn? fuel a cs).map (String.singleton c ++ ·)

/-- The message of a template. Without values it is the template itself. -/
def message? (template : String) (values : List Value) : Option String :=
  let arguments : Arguments := match values with
    | [.table entries] => ⟨values, if entries.isEmpty then none else some entries⟩
    | _ => ⟨values, none⟩
  if values.isEmpty then some template
  else fillIn? (template.length + 1) arguments template.toList

end LogTemplate
end SandboxProfile
