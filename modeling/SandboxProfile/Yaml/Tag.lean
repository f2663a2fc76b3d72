import SandboxProfile.Yaml.Cursor

/-! Tags and directives as they are written. A tag is a handle, which stands for the
start of a longer name, and a suffix. -/
namespace SandboxProfile.Yaml
open Scan

/-- A tag without a handle is written in full. -/
structure WrittenTag where
  handle : Option String
  suffix : String
  deriving Repr, DecidableEq

inductive Directive where
  | version (major : Nat)
  | handle (handle : String) (standsFor : String)
  | other
  deriving Repr, DecidableEq

def isTagChar (c : Char) : Bool :=
  isNameChar c || "-;/?:@&=+$,_.!~*'()[]".toList.contains c

/-- Bytes written with percent signs, as text. -/
def percentBytes : Nat → List UInt8 → Scan (List UInt8)
  | 0, bytes => pure bytes
  | fuel + 1, bytes => do
    if (← peek) == some '%' then
      skip 1
      let b ← hexDigits 2
      percentBytes fuel (bytes ++ [b.toUInt8])
    else pure bytes

def tagParts : Nat → List Char → Scan (List Char)
  | 0, text => pure text
  | fuel + 1, text => do
    let plain ← takeWhile isTagChar
    let text := text ++ plain
    if (← peek) == some '%' then
      let bytes ← percentBytes ((← get).rest.length + 1) []
      match String.fromUTF8? ⟨bytes.toArray⟩ with
      | some s => tagParts fuel (text ++ s.toList)
      | none => malformed
    else pure text

def tagText : Scan String := do
  match ← tagParts ((← get).rest.length + 1) [] with
  | [] => malformed
  | text => pure (String.ofList text)

/-- A handle: an exclamation mark alone, or a name between two of them. -/
def tagHandle : Scan String := do
  match (← get).rest with
  | '!' :: ' ' :: _ =>
    skip 1
    pure "!"
  | '!' :: rest =>
    let body := rest.takeWhile isNameChar
    if (rest.drop body.length).head? == some '!' then
      skip (body.length + 2)
      pure ("!" ++ String.ofList body ++ "!")
    else malformed
  | _ => malformed

/-- Whether a second exclamation mark comes before the next space. -/
def hasSecondMark (rest : List Char) : Bool :=
  (rest.takeWhile fun c => !(c = ' ' || isBreak c)).contains '!'

def tag : Scan WrittenTag := do
  let written ← match (← get).rest.drop 1 with
    | '<' :: _ => do
      skip 2
      let suffix ← tagText
      if (← peek) != some '>' then malformed
      skip 1
      pure ⟨none, suffix⟩
    | rest => do
      if (← get).endsOr isGap 1 then
        skip 1
        pure ⟨none, "!"⟩
      else if hasSecondMark rest then
        let handle ← tagHandle
        pure ⟨some handle, ← tagText⟩
      else
        skip 1
        pure ⟨some "!", ← tagText⟩
  expectEnd fun c => c = ' ' || isBreak c
  pure written

def decimal : Scan Nat := do
  match ← takeWhile fun c => '0' ≤ c && c ≤ '9' with
  | [] => malformed
  | cs => pure (Text.ofDigits (cs.map fun c => c.toNat - 0x30))

def directive : Scan Directive := do
  skip 1
  let name ← name
  expectEnd fun c => c = ' ' || isBreak c
  let d ← match name with
    | "YAML" => do
      skipSpaces
      let major ← decimal
      if (← peek) != some '.' then malformed
      skip 1
      discard decimal
      expectEnd fun c => c = ' ' || isBreak c
      pure (.version major)
    | "TAG" => do
      skipSpaces
      let handle ← tagHandle
      if (← peek) != some ' ' then malformed
      skipSpaces
      let standsFor ← tagText
      expectEnd fun c => c = ' ' || isBreak c
      pure (.handle handle standsFor)
    | _ => do
      skipWhile (!isBreak ·)
      pure .other
  emptyRest
  pure d

end SandboxProfile.Yaml
