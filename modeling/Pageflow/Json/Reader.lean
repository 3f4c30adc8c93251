import Pageflow.Json.Value
import Pageflow.Number.Decimal
import Pageflow.Text.Utf8
/-!
Reading JSON texts. The reader also takes `NaN`, `Infinity` and `-Infinity`, and of a repeated
key the last value. A failure names its cause and the position where it was noticed.
-/
namespace Pageflow.Json

/-- Why a text is not JSON. -/
inductive Flaw where
  | byteOrderMark
  | value
  | propertyName
  | colon
  | comma
  | unterminated
  | control
  | escape
  | unicodeEscape
  | extra
  | digitLimit (digits : Nat)
  | depth (kind : String)
deriving DecidableEq

/-- A flaw and the number of characters before it. -/
structure Failure where
  flaw : Flaw
  position : Nat
deriving DecidableEq

def Flaw.text : Flaw → String
  | .byteOrderMark => "Unexpected UTF-8 BOM (decode using utf-8-sig)"
  | .value => "Expecting value"
  | .propertyName => "Expecting property name enclosed in double quotes"
  | .colon => "Expecting ':' delimiter"
  | .comma => "Expecting ',' delimiter"
  | .unterminated => "Unterminated string starting at"
  | .control => "Invalid control character at"
  | .escape => "Invalid \\escape"
  | .unicodeEscape => "Invalid \\uXXXX escape"
  | .extra => "Extra data"
  | .digitLimit digits =>
    "Exceeds the limit (4300 digits) for integer string conversion: value has " ++
      toString digits ++ " digits; use sys.set_int_max_str_digits() to increase the limit"
  | .depth kind =>
    "maximum recursion depth exceeded while decoding a JSON " ++ kind ++ " from a unicode string"

/-- The cause with the line, the column and the character number of its place in `source`. -/
def Failure.message (source : List Char) (failure : Failure) : String :=
  let before := source.take failure.position
  let line := before.count '\n' + 1
  let column := (before.reverse.takeWhile (· != '\n')).length + 1
  failure.flaw.text ++ ": line " ++ toString line ++ " column " ++ toString column ++
    " (char " ++ toString failure.position ++ ")"

def isJsonBlank (c : Char) : Bool := c == ' ' || c == '\t' || c == '\n' || c == '\r'

/-- Skips blanks. -/
def skipBlanks (cs : List Char) (pos : Nat) : List Char × Nat :=
  (cs.dropWhile isJsonBlank, pos + (cs.takeWhile isJsonBlank).length)

def fail {α : Type} (flaw : Flaw) (position : Nat) : Except Failure α := .error ⟨flaw, position⟩

/-- The value of four hexadecimal digits. -/
def hex4? : List Char → Option Nat
  | [a, b, c, d] => do
    let w ← Text.hexDigit? a
    let x ← Text.hexDigit? b
    let y ← Text.hexDigit? c
    let z ← Text.hexDigit? d
    pure (((w * 16 + x) * 16 + y) * 16 + z)
  | _ => none

/-- The character of a simple escape. -/
def simpleEscape? : Char → Option Char
  | '"' => some '"'
  | '\\' => some '\\'
  | '/' => some '/'
  | 'b' => some (Char.ofNat 8)
  | 'f' => some (Char.ofNat 12)
  | 'n' => some '\n'
  | 'r' => some '\r'
  | 't' => some '\t'
  | _ => none

/-- A code unit as a character; half of a pair gives the replacement character. -/
def unitChar (n : Nat) : Char :=
  if 0xd800 ≤ n && n ≤ 0xdfff then Char.ofNat 0xfffd else Char.ofNat n

/-- Reads the rest of a string whose opening quote stood at `start`. The characters read so far
are held in reverse. -/
def readString (start : Nat) : (fuel : Nat) → List Char → Nat → List Char →
    Except Failure (String × List Char × Nat)
  | 0, _, _, _ => fail .unterminated start
  | fuel + 1, cs, pos, seen =>
    match cs with
    | [] => fail .unterminated start
    | '"' :: rest => .ok (String.ofList seen.reverse, rest, pos + 1)
    | '\\' :: [] => fail .unterminated start
    | '\\' :: 'u' :: rest =>
      if rest.length < 5 then fail .unicodeEscape (pos + 1)
      else
        match hex4? (rest.take 4) with
        | none => fail .unicodeEscape (pos + 1)
        | some unit =>
          let after := rest.drop 4
          match after with
          | '\\' :: 'u' :: more =>
            if 0xd800 ≤ unit && unit ≤ 0xdbff && 5 ≤ more.length then
              match hex4? (more.take 4) with
              | none => fail .unicodeEscape (pos + 7)
              | some low =>
                if 0xdc00 ≤ low && low ≤ 0xdfff then
                  let c := Char.ofNat (0x10000 + (unit - 0xd800) * 0x400 + (low - 0xdc00))
                  readString start fuel (more.drop 4) (pos + 12) (c :: seen)
                else readString start fuel after (pos + 6) (unitChar unit :: seen)
            else readString start fuel after (pos + 6) (unitChar unit :: seen)
          | _ => readString start fuel after (pos + 6) (unitChar unit :: seen)
    | '\\' :: c :: rest =>
      match simpleEscape? c with
      | some e => readString start fuel rest (pos + 2) (e :: seen)
      | none => fail .escape pos
    | c :: rest =>
      if c.toNat < 32 then fail .control pos
      else readString start fuel rest (pos + 1) (c :: seen)

/-- Reads a number. -/
def readNumber (cs : List Char) (pos : Nat) : Except Failure (Json × List Char × Nat) :=
  let (negative, body) :=
    match cs with
    | '-' :: rest => (true, rest)
    | _ => (false, cs)
  let whole :=
    match body with
    | '0' :: _ => ['0']
    | _ => body.takeWhile Char.isDigit
  if whole.isEmpty then fail .value pos
  else
    let afterWhole := body.drop whole.length
    let (places, afterPlaces) :=
      match afterWhole with
      | '.' :: rest =>
        let digits := rest.takeWhile Char.isDigit
        if digits.isEmpty then ([], afterWhole) else (digits, rest.drop digits.length)
      | _ => ([], afterWhole)
    let (exponent, rest) : Option Int × List Char :=
      match afterPlaces with
      | e :: more =>
        if e == 'e' || e == 'E' then
          let (down, digitsAnd) :=
            match more with
            | '-' :: r => (true, r)
            | '+' :: r => (false, r)
            | _ => (false, more)
          let digits := digitsAnd.takeWhile Char.isDigit
          if digits.isEmpty then (none, afterPlaces)
          else
            let size : Int := Decimal.natOfDigits digits
            (some (if down then -size else size), digitsAnd.drop digits.length)
        else (none, afterPlaces)
      | [] => (none, afterPlaces)
    let pos' := pos + (cs.length - rest.length)
    if places.isEmpty && exponent.isNone then
      if 4300 < whole.length then fail (.digitLimit whole.length) pos
      else
        let n : Int := Decimal.natOfDigits whole
        .ok (.int (if negative then -n else n), rest, pos')
    else
      let count := Decimal.natOfDigits (whole ++ places)
      .ok (.float (Decimal.ofScaled negative count (exponent.getD 0 - places.length)), rest, pos')

/-- The words that stand for values. -/
def words : List (String × Json) :=
  [("null", .null), ("true", .bool true), ("false", .bool false), ("NaN", .float .nan),
    ("Infinity", .float (.infinite false)), ("-Infinity", .float (.infinite true))]

/-- The deepest nesting that is read. -/
def maxDepth : Nat := 994

/-- What the reader is about to read. -/
inductive Place where
  | value
  /-- An item of an array, after the items read so far in reverse. -/
  | item (items : List Json)
  /-- A key of an object, after the fields read so far in reverse. -/
  | key (fields : List (String × Json))

/-- Reads a value, or the rest of an array or object from an item or a key on. Every call has
read a character more than its caller or stands one stage further, so twice the length of the
text bounds the calls. -/
def readAt : (fuel depth : Nat) → Place → List Char → Nat → Except Failure (Json × List Char × Nat)
  | 0, _, _, _, pos => fail .value pos
  | fuel + 1, depth, .value, cs, pos =>
    match cs with
    | '"' :: rest =>
      (readString pos (rest.length + 1) rest (pos + 1) []).map fun (s, more) => (.str s, more)
    | '{' :: rest =>
      if depth = 0 then fail (.depth "object") pos
      else
        let (cs, pos) := skipBlanks rest (pos + 1)
        match cs with
        | '}' :: more => .ok (.obj [], more, pos + 1)
        | _ => readAt fuel (depth - 1) (.key []) cs pos
    | '[' :: rest =>
      if depth = 0 then fail (.depth "array") pos
      else
        let (cs, pos) := skipBlanks rest (pos + 1)
        match cs with
        | ']' :: more => .ok (.arr [], more, pos + 1)
        | _ => readAt fuel (depth - 1) (.item []) cs pos
    | _ =>
      match words.findSome? fun (word, j) => (Text.dropWord? word.toList cs).map (word, j, ·) with
      | some (word, j, rest) => .ok (j, rest, pos + word.length)
      | none => readNumber cs pos
  | fuel + 1, depth, .item seen, cs, pos => do
    let (j, cs, pos) ← readAt fuel depth .value cs pos
    let (cs, pos) := skipBlanks cs pos
    match cs with
    | ']' :: rest => .ok (.arr (j :: seen).reverse, rest, pos + 1)
    | ',' :: rest =>
      let (cs, pos) := skipBlanks rest (pos + 1)
      readAt fuel depth (.item (j :: seen)) cs pos
    | _ => fail .comma pos
  | fuel + 1, depth, .key seen, cs, pos =>
    match cs with
    | '"' :: rest => do
      let (key, cs, pos) ← readString pos (rest.length + 1) rest (pos + 1) []
      let (cs, pos) := skipBlanks cs pos
      match cs with
      | ':' :: rest =>
        let (cs, pos) := skipBlanks rest (pos + 1)
        let (j, cs, pos) ← readAt fuel depth .value cs pos
        let (cs, pos) := skipBlanks cs pos
        match cs with
        | '}' :: rest => .ok (.obj (table ((key, j) :: seen).reverse), rest, pos + 1)
        | ',' :: rest =>
          let (cs, pos) := skipBlanks rest (pos + 1)
          readAt fuel depth (.key ((key, j) :: seen)) cs pos
        | _ => fail .comma pos
      | _ => fail .colon pos
    | _ => fail .propertyName pos

/-- Reads a whole text as one value. -/
def read (source : List Char) : Except Failure Json :=
  match source with
  | c :: _ =>
    if c.toNat = 0xfeff then fail .byteOrderMark 0
    else do
      let (cs, pos) := skipBlanks source 0
      let (j, cs, pos) ← readAt (2 * source.length + 2) maxDepth .value cs pos
      let (cs, pos) := skipBlanks cs pos
      if cs.isEmpty then .ok j else fail .extra pos
  | [] => fail .value 0

/-- Reads a text as one value, without regard to the cause of a failure. -/
def read? (source : String) : Option Json := (read source.toList).toOption

end Pageflow.Json
