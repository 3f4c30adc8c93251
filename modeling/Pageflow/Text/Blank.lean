/-!
Blank characters, in three sets, and trimming. `isBlank` is the set of configuration and workflow
texts, `isScriptBlank` that of scripts inside a page, and `isSpace` the plain white-space property
by which numerals are trimmed.
-/
namespace Pageflow.Text

/-- The white-space property of characters. -/
def isSpace (c : Char) : Bool :=
  let n := c.toNat
  (9 ≤ n && n ≤ 13) || n == 32 || n == 0x85 || n == 0xa0 || n == 0x1680 ||
    (0x2000 ≤ n && n ≤ 0x200a) || n == 0x2028 || n == 0x2029 || n == 0x202f || n == 0x205f ||
    n == 0x3000

/-- White space and the four separator controls. -/
def isBlank (c : Char) : Bool := isSpace c || (0x1c ≤ c.toNat && c.toNat ≤ 0x1f)

/-- White space as page scripts see it: the byte-order mark counts, the next-line control does not. -/
def isScriptBlank (c : Char) : Bool := (isSpace c && c.toNat != 0x85) || c.toNat == 0xfeff

/-- Drops the characters of a set from the end. -/
def trimEndBy (p : Char → Bool) (cs : List Char) : List Char := (cs.reverse.dropWhile p).reverse

/-- Drops the characters of a set from both ends. -/
def trimBy (p : Char → Bool) (cs : List Char) : List Char := trimEndBy p (cs.dropWhile p)

/-- A text without the blanks at its two ends. -/
def trim (s : String) : String := String.ofList (trimBy isBlank s.toList)

/-- A text without the occurrences of one character at its two ends. -/
def trimChar (c : Char) (s : String) : String := String.ofList (trimBy (· == c) s.toList)

/-- A text without the occurrences of one character at its end. -/
def trimEndChar (c : Char) (s : String) : String := String.ofList (trimEndBy (· == c) s.toList)

end Pageflow.Text
