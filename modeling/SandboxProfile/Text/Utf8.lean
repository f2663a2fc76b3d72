import SandboxProfile.Text.Quoted

/-! Text from bytes in UTF-8, and where bytes stop being text. -/
namespace SandboxProfile.Text

inductive Utf8FaultKind where
  | start
  | continuation
  | cutShort
  deriving Repr, DecidableEq

structure Utf8Fault where
  kind : Utf8FaultKind
  position : Nat
  /-- The first byte that is at fault, and those after it that belong to it. -/
  bytes : List UInt8
  deriving Repr, DecidableEq

def Utf8FaultKind.reason : Utf8FaultKind → String
  | .start => "invalid start byte"
  | .continuation => "invalid continuation byte"
  | .cutShort => "unexpected end of data"

def Utf8Fault.message (f : Utf8Fault) : String :=
  "'utf-8' codec can't decode " ++
    (match f.bytes with
      | [b] => s!"byte 0x{String.ofList (hexFixed 2 b.toNat)} in position {f.position}"
      | bs => s!"bytes in position {f.position}-{f.position + bs.length - 1}") ++
    ": " ++ f.kind.reason

/-- The ranges of the bytes that must follow a first byte, if it can be one. -/
def utf8Tail? (b : UInt8) : Option (List (UInt8 × UInt8)) :=
  let any : UInt8 × UInt8 := (0x80, 0xBF)
  if b < 0x80 then some []
  else if 0xC2 ≤ b && b ≤ 0xDF then some [any]
  else if b == 0xE0 then some [(0xA0, 0xBF), any]
  else if b == 0xED then some [(0x80, 0x9F), any]
  else if 0xE1 ≤ b && b ≤ 0xEF then some [any, any]
  else if b == 0xF0 then some [(0x90, 0xBF), any, any]
  else if 0xF1 ≤ b && b ≤ 0xF3 then some [any, any, any]
  else if b == 0xF4 then some [(0x80, 0x8F), any, any]
  else none

/-- The first fault in some bytes, given the bytes of the character that has begun and the
ranges of those that are still to come. -/
def utf8Fault? (position : Nat) (begun : List UInt8) (expected : List (UInt8 × UInt8)) :
    List UInt8 → Option Utf8Fault
  | [] => if expected.isEmpty then none else some ⟨.cutShort, position, begun⟩
  | b :: rest =>
    match expected with
    | [] =>
      let position := position + begun.length
      match utf8Tail? b with
      | none => some ⟨.start, position, [b]⟩
      | some tail => utf8Fault? position [b] tail rest
    | (least, greatest) :: more =>
      if least ≤ b && b ≤ greatest then utf8Fault? position (begun ++ [b]) more rest
      else some ⟨.continuation, position, begun⟩

def decodeUtf8 (bs : List UInt8) : Except Utf8Fault String :=
  match String.fromUTF8? ⟨bs.toArray⟩ with
  | some s => .ok s
  | none => .error ((utf8Fault? 0 [] [] bs).getD ⟨.start, 0, bs.take 1⟩)

end SandboxProfile.Text
