/-! Plain layout of text: columns, splitting at a separator, and replacing. -/
namespace SandboxProfile.Text

/-- Fills a text with spaces on the right, up to a number of characters. -/
def padRight (width : Nat) (s : String) : String :=
  s ++ String.ofList (List.replicate (width - s.length) ' ')

/-- The pieces between the separators; there is one piece more than separators. -/
def splitList (sep : Char) : List Char → List (List Char)
  | [] => [[]]
  | c :: cs =>
    if c = sep then [] :: splitList sep cs
    else
      match splitList sep cs with
      | [] => [[c]]
      | piece :: rest => (c :: piece) :: rest

def split (sep : Char) (s : String) : List String :=
  (splitList sep s.toList).map String.ofList

def joinWith (sep : String) : List String → String
  | [] => ""
  | [s] => s
  | s :: rest => s ++ sep ++ joinWith sep rest

/-- The characters that end a line. -/
def isLineEnd (c : Char) : Bool :=
  let n := c.toNat
  (0x0A ≤ n && n ≤ 0x0D) || (0x1C ≤ n && n ≤ 0x1E) || n == 0x85 || n == 0x2028 || n == 0x2029

/-- The lines of a text. An end of the last line begins no further one, and a carriage
return with a line feed behind it is one end. -/
def lineList : List Char → List (List Char)
  | [] => []
  | '\r' :: '\n' :: cs => [] :: lineList cs
  | c :: cs =>
    if isLineEnd c then [] :: lineList cs
    else
      match lineList cs with
      | [] => [[c]]
      | line :: rest => (c :: line) :: rest

def lines (s : String) : List String := (lineList s.toList).map String.ofList

/-- Sorted by code point, each text once. -/
def sortedDistinct (texts : List String) : List String :=
  (texts.mergeSort (fun a b => decide (a ≤ b))).eraseDups

theorem splitList_ne_nil (sep : Char) (cs : List Char) : splitList sep cs ≠ [] := by
  cases cs with
  | nil => simp [splitList]
  | cons c cs =>
    simp only [splitList]
    split
    · simp
    · split <;> simp

end SandboxProfile.Text
