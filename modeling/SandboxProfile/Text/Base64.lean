/-! Bytes written in base 64. Characters outside of the alphabet are skipped, and
what follows a complete padding is not read. -/
namespace SandboxProfile.Text.Base64

def sextet? (c : Char) : Option Nat :=
  if 'A' ≤ c && c ≤ 'Z' then some (c.toNat - 0x41)
  else if 'a' ≤ c && c ≤ 'z' then some (c.toNat - 0x61 + 26)
  else if '0' ≤ c && c ≤ '9' then some (c.toNat - 0x30 + 52)
  else if c = '+' then some 62
  else if c = '/' then some 63
  else none

/-- Decodes the rest of a text, given how many characters of a group of four have
been read, the bits that are left of them, and the padding since. -/
def decodeFrom (filled bits pads : Nat) : List Char → Option (List UInt8)
  | [] => if filled == 0 then some [] else none
  | c :: rest =>
    if c = '=' then
      if filled ≥ 2 && filled + pads + 1 ≥ 4 then some []
      else decodeFrom filled bits (if filled ≥ 2 then pads + 1 else pads) rest
    else
      match sextet? c, filled with
      | none, _ => decodeFrom filled bits pads rest
      | some n, 0 => decodeFrom 1 n 0 rest
      | some n, 1 => (decodeFrom 2 (n % 16) 0 rest).map (((bits * 4 + n / 16) % 256).toUInt8 :: ·)
      | some n, 2 => (decodeFrom 3 (n % 4) 0 rest).map (((bits * 16 + n / 4) % 256).toUInt8 :: ·)
      | some n, _ => (decodeFrom 0 0 0 rest).map (((bits * 64 + n) % 256).toUInt8 :: ·)

def decode (s : String) : Option (List UInt8) := decodeFrom 0 0 0 s.toList

end SandboxProfile.Text.Base64
