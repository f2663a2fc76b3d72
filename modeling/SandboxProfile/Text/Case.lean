/-! Upper and lower case as far as they reach ASCII. A character whose other
case is not ASCII text is left alone: it differs from every ASCII word before
and after the change. -/
namespace SandboxProfile.Text

/-- The upper case of a character, if that is ASCII text. -/
def upperAscii (c : Char) : List Char :=
  if 'a' ≤ c && c ≤ 'z' then [c.toUpper]
  else
    match c.toNat with
    | 0xDF => ['S', 'S']
    | 0x131 => ['I']
    | 0x17F => ['S']
    | 0xFB00 => ['F', 'F']
    | 0xFB01 => ['F', 'I']
    | 0xFB02 => ['F', 'L']
    | 0xFB03 => ['F', 'F', 'I']
    | 0xFB04 => ['F', 'F', 'L']
    | 0xFB05 => ['S', 'T']
    | 0xFB06 => ['S', 'T']
    | _ => [c]

/-- The lower case of a character, if that is ASCII text. -/
def lowerAscii (c : Char) : Char :=
  if 'A' ≤ c && c ≤ 'Z' then c.toLower else if c.toNat == 0x212A then 'k' else c

def upper (s : String) : String := String.ofList (s.toList.flatMap upperAscii)

def lower (s : String) : String := String.ofList (s.toList.map lowerAscii)

end SandboxProfile.Text
