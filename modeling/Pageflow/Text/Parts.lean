/-!
Finding, cutting and replacing parts of a text, on lists of characters, and its lines.
-/
namespace Pageflow.Text

/-- `rest` when `cs` is `word` followed by `rest`. -/
def dropWord? : (word cs : List Char) → Option (List Char)
  | [], cs => some cs
  | _ :: _, [] => none
  | w :: word, c :: cs => if w = c then dropWord? word cs else none

/-- The text before the first occurrence of `mark` and the text after it. -/
def cutAt? (mark : List Char) : List Char → Option (List Char × List Char)
  | [] => if mark.isEmpty then some ([], []) else none
  | c :: cs =>
    match dropWord? mark (c :: cs) with
    | some rest => some ([], rest)
    | none => (cutAt? mark cs).map fun (before, after) => (c :: before, after)

/-- Whether `mark` occurs in the text. -/
def hasPart (mark : List Char) : List Char → Bool
  | [] => mark.isEmpty
  | c :: cs => (dropWord? mark (c :: cs)).isSome || hasPart mark cs

/-- Whether `mark` occurs in `s`. -/
def contains (s mark : String) : Bool := hasPart mark.toList s.toList

/-- Whether `s` starts with `word`. -/
def startsWith (s word : String) : Bool := (dropWord? word.toList s.toList).isSome

/-- Whether `s` ends with `word`. -/
def endsWith (s word : String) : Bool :=
  (dropWord? word.toList.reverse s.toList.reverse).isSome

/-- The pieces of a text between the occurrences of one character. -/
def splitChars (mark : Char) : List Char → List (List Char)
  | [] => [[]]
  | c :: cs =>
    match splitChars mark cs with
    | [] => [[c]]
    | piece :: pieces => if c = mark then [] :: piece :: pieces else (c :: piece) :: pieces

/-- The pieces of `s` between the occurrences of one character. -/
def split (mark : Char) (s : String) : List String := (splitChars mark s.toList).map String.ofList

/-- The pieces written one after another with `mark` in between. -/
def join (mark : String) (pieces : List String) : String := mark.intercalate pieces

/-- Replaces the occurrences of a non-empty `mark` from left to right; `skip` counts the
characters of a replaced occurrence still to be passed over. -/
def replaceFrom (mark value : List Char) : (skip : Nat) → List Char → List Char
  | _, [] => []
  | skip + 1, _ :: cs => replaceFrom mark value skip cs
  | 0, c :: cs =>
    match dropWord? mark (c :: cs) with
    | some _ => value ++ replaceFrom mark value (mark.length - 1) cs
    | none => c :: replaceFrom mark value 0 cs

/-- `s` with every occurrence of the non-empty text `mark` replaced by `value`. -/
def replace (s mark value : String) : String :=
  if mark.isEmpty then s
  else String.ofList (replaceFrom mark.toList value.toList 0 s.toList)

/-- The first `n` characters. -/
def take (n : Nat) (s : String) : String := String.ofList (s.toList.take n)

/-- Fills up with blanks on the left to at least `width` characters. -/
def padLeft (width : Nat) (s : String) (fill : Char := ' ') : String :=
  String.ofList (List.replicate (width - s.length) fill) ++ s

/-- Fills up with blanks on the right to at least `width` characters. -/
def padRight (width : Nat) (s : String) : String :=
  s ++ String.ofList (List.replicate (width - s.length) ' ')

/-! ## Lines

`firstLine` breaks at every character that ends a line of running text; a file read as text has its
three kinds of line end unified first. -/

/-- A character that ends a line of running text. -/
def isLineEnd (c : Char) : Bool :=
  let n := c.toNat
  (10 ≤ n && n ≤ 13) || (0x1c ≤ n && n ≤ 0x1e) || n == 0x85 || n == 0x2028 || n == 0x2029

/-- The text up to its first line end. -/
def firstLine (s : String) : String := String.ofList (s.toList.takeWhile (!isLineEnd ·))

/-- Carriage returns, alone or before a line feed, read as line feeds. -/
def unifyLineEnds : List Char → List Char
  | [] => []
  | '\r' :: '\n' :: cs => '\n' :: unifyLineEnds cs
  | '\r' :: cs => '\n' :: unifyLineEnds cs
  | c :: cs => c :: unifyLineEnds cs

end Pageflow.Text
