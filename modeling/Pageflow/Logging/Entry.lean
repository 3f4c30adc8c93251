import Pageflow.Fault
import Pageflow.Json.Writer
import Pageflow.Number.Calendar
/-!
Log entries and their messages. A message template has percent directives with flags, a width, a
precision and a conversion; a table as the only argument is addressed by name.
-/
namespace Pageflow.Logging

/-- The flags, the width and the precision of a directive. -/
structure Layout where
  left : Bool
  plus : Bool
  blank : Bool
  alternate : Bool
  zero : Bool
  width : Nat
  precision : Option Nat

def Layout.none : Layout := ⟨false, false, false, false, false, 0, Option.none⟩

/-- A text filled up to the width of a layout with blanks. -/
def Layout.pad (l : Layout) (s : String) : String :=
  if l.left then Text.padRight l.width s else Text.padLeft l.width s

/-- A number given by its sign and its digits, filled up to the width of a layout. -/
def Layout.padNumber (l : Layout) (negative : Bool) (lead digits : String) : String :=
  let sign := if negative then "-" else if l.plus then "+" else if l.blank then " " else ""
  if l.zero && !l.left then
    sign ++ lead ++ Text.padLeft (l.width - sign.length - lead.length) digits '0'
  else l.pad (sign ++ lead ++ digits)

/-- A text with everything beyond ASCII escaped. -/
def asciiOnly (s : String) : String :=
  String.join <| s.toList.map fun c =>
    if c.toNat < 128 then c.toString
    else if c.toNat < 0x100 then "\\x" ++ Text.hex 2 c.toNat
    else if c.toNat < 0x10000 then "\\u" ++ Text.hex 4 c.toNat
    else "\\U" ++ Text.hex 8 c.toNat

def typeError {α : Type} (message : String) : Result α := .error (.foreign "TypeError" message)

/-- An integer argument; a double is cut to one if the conversion allows it. -/
def intArgument (cut : Bool) (conversion : Char) : Json → Result Int
  | .bool b => .ok (if b then 1 else 0)
  | .int n => .ok n
  | .float x =>
    if cut then
      match x.truncate? with
      | some n => .ok n
      | none =>
        if x = .nan then .error (.foreign "ValueError" "cannot convert float NaN to integer")
        else .error (.foreign "OverflowError" "cannot convert float infinity to integer")
    else typeError ("%" ++ conversion.toString ++ " format: an integer is required, not float")
  | j =>
    typeError ("%" ++ conversion.toString ++ " format: " ++
      (if cut then "a real number" else "an integer") ++ " is required, not " ++ j.kindName)

/-- The digits of an integer in a base, at least as many as the precision asks for. -/
def Layout.integer (l : Layout) (base : Nat) (lead : String) (upper : Bool) (n : Int) : String :=
  let digits := Nat.toDigits base n.natAbs
  let digits := if upper then digits.map Char.toUpper else digits
  l.padNumber (n < 0) (if l.alternate then lead else "")
    (Text.padLeft (l.precision.getD 0) (String.ofList digits) '0')

/-- A number argument as a double. -/
def numberArgument : Json → Result Double
  | .bool b => .ok (Double.ofInt (if b then 1 else 0))
  | .int n => .ok (Double.ofInt n)
  | .float x => .ok x
  | j => typeError ("must be real number, not " ++ j.kindName)

/-- A number with a point, which stands before the exponent if there is none yet. -/
def withPoint (cs : List Char) : List Char :=
  if cs.contains '.' || !cs.any Char.isDigit then cs
  else
    let whole := cs.takeWhile (· ≠ 'e')
    whole ++ '.' :: cs.drop whole.length

/-- A double written by `write` and filled up to the width. -/
def Layout.number (l : Layout) (upper : Bool) (write : Double → String) (x : Double) : String :=
  let cs := (write x).toList
  let cs := if l.alternate then withPoint cs else cs
  let (negative, cs) := match cs with
    | '-' :: rest => (true, rest)
    | _ => (false, cs)
  let cs := if upper then cs.map Char.toUpper else cs
  l.padNumber negative "" (String.ofList cs)

/-- One argument as a conversion writes it; `none` for an unknown conversion. -/
def convert (l : Layout) (conversion : Char) (j : Json) : Option (Result String) :=
  let cut (s : String) : String := match l.precision with
    | some n => Text.take n s
    | none => s
  let places := l.precision.getD 6
  match conversion with
  | 's' => some (.ok (l.pad (cut j.display)))
  | 'r' => some (.ok (l.pad (cut j.literal)))
  | 'a' => some (.ok (l.pad (cut (asciiOnly j.literal))))
  | 'd' | 'i' | 'u' => some ((intArgument true conversion j).map (l.integer 10 "" false))
  | 'o' => some ((intArgument false conversion j).map (l.integer 8 "0o" false))
  | 'x' => some ((intArgument false conversion j).map (l.integer 16 "0x" false))
  | 'X' => some ((intArgument false conversion j).map (l.integer 16 "0X" true))
  | 'e' => some ((numberArgument j).map (l.number false (Decimal.exponential places "e")))
  | 'E' => some ((numberArgument j).map (l.number true (Decimal.exponential places "e")))
  | 'f' => some ((numberArgument j).map (l.number false (Decimal.fixed places)))
  | 'F' => some ((numberArgument j).map (l.number true (Decimal.fixed places)))
  | 'g' => some ((numberArgument j).map (l.number false (Decimal.general places · l.alternate)))
  | 'G' => some ((numberArgument j).map (l.number true (Decimal.general places · l.alternate)))
  | 'c' => some <| match j with
    | .int n =>
      if 0 ≤ n ∧ n < 0x110000 then .ok (l.pad (Char.ofNat n.toNat).toString)
      else .error (.foreign "OverflowError" "%c arg not in range(0x110000)")
    | .bool b => .ok (l.pad (Char.ofNat (if b then 1 else 0)).toString)
    | .str s => if s.length = 1 then .ok (l.pad s) else typeError "%c requires int or char"
    | _ => typeError "%c requires int or char"
  | _ => none

/-- What the directives of a template draw their arguments from. -/
structure Arguments where
  rest : List Json
  table : Option (List (String × Json))
  /-- Whether arguments were given that no directive has used. -/
  unused : Bool

/-- The next argument in order. -/
def Arguments.next (a : Arguments) : Result (Json × Arguments) :=
  match a.rest with
  | j :: rest => .ok (j, { a with rest, unused := !rest.isEmpty && a.table.isNone })
  | [] => typeError "not enough arguments for format string"

/-- The flags at the start of a directive. -/
def readFlags (l : Layout) : List Char → Layout × List Char
  | '-' :: cs => readFlags { l with left := true } cs
  | '+' :: cs => readFlags { l with plus := true } cs
  | ' ' :: cs => readFlags { l with blank := true } cs
  | '#' :: cs => readFlags { l with alternate := true } cs
  | '0' :: cs => readFlags { l with zero := true } cs
  | cs => (l, cs)

/-- The largest number that a directive can take from its arguments, and what it is too large for
otherwise. -/
structure Bound where
  most : Nat
  kind : String

def widthBound : Bound := ⟨Nat.pow 2 63 - 1, "C ssize_t"⟩
def precisionBound : Bound := ⟨Nat.pow 2 31 - 1, "C int"⟩

/-- A number in a directive, or an asterisk that takes it from the arguments. -/
def readNumber (bound : Bound) (a : Arguments) (cs : List Char) :
    Result (Option Int × Arguments × List Char) :=
  match cs with
  | '*' :: rest => do
    let (j, a) ← a.next
    match j with
    | .int n =>
      if n ≤ bound.most && -bound.most - 1 ≤ n then pure (some n, a, rest)
      else .error (.foreign "OverflowError" ("Python int too large to convert to " ++ bound.kind))
    | .bool b => pure (some (if b then 1 else 0), a, rest)
    | _ => typeError "* wants int"
  | _ =>
    let digits := cs.takeWhile Char.isDigit
    if digits.isEmpty then .ok (none, a, cs)
    else .ok (some (Decimal.natOfDigits digits), a, cs.drop digits.length)

/-- The name in parentheses at the start of a directive, with nested pairs counted. -/
def readName : (depth : Nat) → List Char → List Char → Option (List Char × List Char)
  | _, _, [] => none
  | depth, seen, '(' :: cs => readName (depth + 1) ('(' :: seen) cs
  | 0, seen, ')' :: cs => some (seen.reverse, cs)
  | depth + 1, seen, ')' :: cs => readName depth (')' :: seen) cs
  | depth, seen, c :: cs => readName depth (c :: seen) cs

/-- A character in a message; one beyond ASCII is only hinted at. -/
def shownChar (c : Char) : String := if 31 ≤ c.toNat && c.toNat < 127 then c.toString else "?"

def incomplete {α : Type} : Result α := .error (.foreign "ValueError" "incomplete format")

/-- One directive after its percent sign, other than a second one: the text it stands for and what
follows. -/
def directive (size : Nat) (a : Arguments) (cs : List Char) :
    Result (String × Arguments × List Char) := do
  let (a, cs) ← match cs with
    | '(' :: rest =>
      match a.table with
      | none => typeError "format requires a mapping"
      | some table =>
        match readName 0 [] rest with
        | none => .error (.foreign "ValueError" "incomplete format key")
        | some (key, cs) =>
          match table.lookup (String.ofList key) with
          | some j => pure ({ a with rest := [j] }, cs)
          | none => .error (.foreign "KeyError" (Text.quoted (String.ofList key)))
    | _ => pure (a, cs)
  let (l, cs) := readFlags .none cs
  let (width, a, cs) ← readNumber widthBound a cs
  let l := match width with
    | some n => { l with width := n.natAbs, left := l.left || n < 0 }
    | none => l
  let (precision, a, cs) ← match cs with
    | '.' :: rest => do
      let (p, a, cs) ← readNumber precisionBound a rest
      pure (some (p.getD 0).toNat, a, cs)
    | _ => pure (none, a, cs)
  let l := { l with precision }
  let cs := match cs with
    | c :: rest => if c = 'h' || c = 'l' || c = 'L' then rest else cs
    | [] => cs
  match cs with
  | [] => incomplete
  | c :: rest =>
    let (j, a) ← a.next
    match convert l c j with
    | some text => pure (← text, a, rest)
    | none =>
      .error (.foreign "ValueError" ("unsupported format character '" ++ shownChar c ++ "' (0x" ++
        Text.hex 1 c.toNat ++ ") at index " ++ toString (size - cs.length)))

/-- Fills a template from its arguments; every call reads at least one character. -/
def fillFrom (size : Nat) : (fuel : Nat) → Arguments → List Char → Result String
  | 0, _, _ => .ok ""
  | _ + 1, a, [] =>
    if a.unused then typeError "not all arguments converted during string formatting" else .ok ""
  | fuel + 1, a, '%' :: '%' :: cs => do pure ("%" ++ (← fillFrom size fuel a cs))
  | fuel + 1, a, '%' :: cs => do
    let (text, a, cs) ← directive size a cs
    pure (text ++ (← fillFrom size fuel a cs))
  | fuel + 1, a, c :: cs => do pure (c.toString ++ (← fillFrom size fuel a cs))

/-- A log message: the template filled from its arguments, or as it is without any. A single
non-empty table as argument is the table that directives address. -/
def fill (template : String) (args : List Json) : Result String :=
  let cs := template.toList
  match args with
  | [] => .ok template
  | [.obj (f :: fs)] => fillFrom cs.length (cs.length + 1) ⟨[.obj (f :: fs)], some (f :: fs), false⟩ cs
  | args => fillFrom cs.length (cs.length + 1) ⟨args, none, true⟩ cs

/-! ## Entries

The form of an entry is one JSON line. -/

/-- An entry of the log, made at `created` seconds since 1970. -/
structure Entry where
  logger : String
  level : Int
  template : String
  args : List Json
  created : Double
  fault : Option Fault

/-- The name of a level. -/
def levelName (level : Int) : String :=
  match level with
  | 50 => "CRITICAL"
  | 40 => "ERROR"
  | 30 => "WARNING"
  | 20 => "INFO"
  | 10 => "DEBUG"
  | 0 => "NOTSET"
  | n => "Level " ++ toString n

/-- A fault as its entry shows it: the full name and, unless it is empty, the message. -/
def faultText (f : Fault) : String :=
  let name :=
    match f with
    | .browserTimeout _ | .browser _ => "playwright._impl._errors." ++ f.name
    | _ => if f.ownKind?.isSome then "pagerun.exceptions." ++ f.name else f.name
  if f.message.isEmpty then name else name ++ ": " ++ f.message

/-- An entry as a JSON object on one line. -/
def Entry.line (e : Entry) : Result String := do
  let message ← fill e.template e.args
  let seconds := (e.created.value?.map Rat.floor).getD 0
  let fields : List (String × Json) :=
    [("severity", levelName e.level), ("message", message), ("logger", e.logger),
      ("time", (Calendar.moment seconds).text 1)]
  let exception : List (String × Json) :=
    match e.fault with
    | some f => [("exception", .str (faultText f))]
    | none => []
  pure ((Json.obj (fields ++ exception)).write Json.spaced)

end Pageflow.Logging
