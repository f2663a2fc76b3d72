import SandboxProfile.Text.Blank
import SandboxProfile.Text.Case

/-! Markup of console texts. A tag in brackets starts a style and a tag with a slash ends
one; a tag without a name ends the style that was started last. Backslashes in front of a
tag make it plain. Here styles have no effect, but those that end must have started. -/
namespace SandboxProfile.Markup

inductive Piece where
  | plain (cs : List Char)
  | opening (name : String)
  | closing (name : String)
  deriving Repr, DecidableEq

def startsTag (c : Char) : Bool := ('a' ≤ c && c ≤ 'z') || c = '#' || c = '/' || c = '@'

/-- The text of a tag whose bracket has been read, and what follows it. -/
def tag? : List Char → Option (List Char × List Char)
  | [] => none
  | c :: cs =>
    if startsTag c then
      let inside (c : Char) : Bool := c ≠ ']' && c ≠ '['
      match cs.dropWhile inside with
      | ']' :: rest => some (c :: cs.takeWhile inside, rest)
      | _ => none
    else none

/-- What a tag means. Behind an equals sign stand arguments, which do not count. -/
def Piece.ofTag (cs : List Char) : Piece :=
  let name := cs.takeWhile (· ≠ '=')
  let normal (cs : List Char) : String := Text.lower (Text.trim (String.ofList cs))
  match name with
  | '/' :: name => .closing (normal name)
  | name => .opening (normal name)

def pieces : Nat → List Char → List Piece
  | 0, _ => []
  | _ + 1, [] => []
  | fuel + 1, c :: cs =>
    let slashes := (c :: cs).takeWhile (· = '\\')
    match (c :: cs).dropWhile (· = '\\') with
    | '[' :: rest =>
      match tag? rest with
      | none => .plain (slashes.dropLast ++ ['[']) :: pieces fuel rest
      | some (text, rest) =>
        let shown := Piece.plain (List.replicate (slashes.length / 2) '\\')
        if slashes.length % 2 = 1 then
          shown :: .plain ('[' :: text ++ [']']) :: pieces fuel rest
        else shown :: Piece.ofTag text :: pieces fuel rest
    | rest =>
      if slashes.isEmpty then .plain [c] :: pieces fuel cs else .plain slashes :: pieces fuel rest

/-- The text without its tags, given the styles that have started, the last one first.
There is none if a style ends that has not started. -/
def unstyled? (started : List String) : List Piece → Option (List Char)
  | [] => some []
  | .plain cs :: rest => (unstyled? started rest).map (cs ++ ·)
  | .opening name :: rest => unstyled? (name :: started) rest
  | .closing name :: rest =>
    if name = "" then
      match started with
      | [] => none
      | _ :: started => unstyled? started rest
    else if started.contains name then unstyled? (started.erase name) rest
    else none

def text? (s : String) : Option String :=
  (unstyled? [] (pieces (s.length + 1) s.toList)).map String.ofList

end SandboxProfile.Markup
