import Pageflow.Schema.Checked
import Pageflow.Number.Decimal
import Pageflow.Text.Blank
import Pageflow.Text.Case
/-!
Checks of single values. Numbers and truth values may also be given as texts.
-/
namespace Pageflow.Schema

/-- Only texts are texts. -/
def text : Json → Checked String
  | .str s => .valid s
  | _ => .fail .stringType

/-- Digits with single underscores between them, without the underscores. -/
def digitRun? : List Char → Option (List Char)
  | [] => none
  | [c] => if c.isDigit then some [c] else none
  | c :: '_' :: rest => if c.isDigit then (digitRun? rest).map (c :: ·) else none
  | c :: rest => if c.isDigit then (digitRun? rest).map (c :: ·) else none

/-- An integer numeral: blanks around it, a sign, digits, and after a point nothing but zeros. -/
def readInt? (s : String) : Option Int :=
  let cs := Text.trimBy Text.isSpace s.toList
  let (negative, cs) :=
    match cs with
    | '-' :: rest => (true, rest)
    | '+' :: rest => (false, rest)
    | _ => (false, cs)
  let (whole, zeros) :=
    match Text.cutAt? ['.'] cs with
    | some (before, after) => (before, !after.isEmpty && after.all (· == '0'))
    | none => (cs, true)
  if zeros then
    (digitRun? whole).map fun digits =>
      let n : Int := Decimal.natOfDigits digits
      if negative then -n else n
  else none

/-- An integer: a truth value counts as 0 or 1, a double if it is whole and fits 64 bits, a text
if it is a numeral. -/
def int : Json → Checked Int
  | .bool b => .valid (if b then 1 else 0)
  | .int n => .valid n
  | .float x =>
    match x.value? with
    | none => .fail .finiteNumber
    | some q =>
      if q.den ≠ 1 then .fail .intFromFloat
      else if q.num.natAbs < Nat.pow 2 63 then .valid q.num
      else .fail .intParsingSize
  | .str s =>
    if 4300 < s.length then .fail .intParsingSize
    else
      match readInt? s with
      | some n => .valid n
      | none => .fail .intParsing
  | _ => .fail .intType

/-- An integer not below `bound`. -/
def intAtLeast (bound : Int) (j : Json) : Checked Int :=
  (int j).andThen fun n => if bound ≤ n then .valid n else .fail (.atLeast (toString bound))

/-- The words for infinity and for what is no number, in lower case. -/
def specialNumber? (cs : List Char) : Option Double :=
  let (negative, word) :=
    match cs with
    | '-' :: rest => (true, rest)
    | '+' :: rest => (false, rest)
    | _ => (false, cs)
  let word := String.ofList (word.map Char.toLower)
  if word == "inf" || word == "infinity" then some (.infinite negative)
  else if word == "nan" then some .nan
  else none

/-- The digits of a numeral without the single underscores between them. -/
def dropUnderscores? : List Char → Option (List Char)
  | [] => some []
  | a :: '_' :: b :: rest =>
    if a.isDigit && b.isDigit then (dropUnderscores? (b :: rest)).map (a :: ·) else none
  | '_' :: _ => none
  | c :: rest => (dropUnderscores? rest).map (c :: ·)

/-- A number: any number, a truth value as 0 or 1, or a text that is a numeral. -/
def double : Json → Checked Double
  | .bool b => .valid (Double.ofInt (if b then 1 else 0))
  | .int n => .valid (Double.ofInt n)
  | .float x => .valid x
  | .str s =>
    let cs := Text.trimBy Text.isSpace s.toList
    match specialNumber? cs with
    | some x => .valid x
    | none =>
      match (dropUnderscores? cs).bind Decimal.read? with
      | some x => .valid x
      | none => .fail .floatParsing
  | _ => .fail .floatType

/-- The words for the two truth values. -/
def trueWords : List String := ["1", "true", "t", "yes", "y", "on"]
def falseWords : List String := ["0", "false", "f", "no", "n", "off"]

/-- A whole number as a truth value; one that does not fit 64 bits is not even looked at as one. -/
def wholeBool (n : Int) : Checked Bool :=
  if n = 0 then .valid false
  else if n = 1 then .valid true
  else if n.natAbs < Nat.pow 2 63 then .fail .boolParsing
  else .fail .boolType

/-- A truth value, also as 0 or 1 or as one of the usual words in any case. -/
def bool : Json → Checked Bool
  | .bool b => .valid b
  | .int n => wholeBool n
  | .float x =>
    match x.whole? with
    | some n => wholeBool n
    | none => .fail .boolType
  | .str s =>
    let word := Text.lower s
    if trueWords.contains word then .valid true
    else if falseWords.contains word then .valid false
    else .fail .boolParsing
  | _ => .fail .boolType

end Pageflow.Schema
