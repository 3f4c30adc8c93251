import Pageflow.Json.Value
import Pageflow.Number.Decimal
import Pageflow.Text.Quoted
/-!
Writing document values: as JSON texts, with the spacing and escaping given by a `Style`, and as
the literals that messages quote.
-/
namespace Pageflow.Json

/-- How a JSON text is spaced and which characters are escaped. -/
structure Style where
  comma : String
  colon : String
  ascii : Bool

/-- No blanks; everything printable as it is. -/
def compact : Style := ⟨",", ":", false⟩

/-- A blank after commas and colons; ASCII only. -/
def spaced : Style := ⟨", ", ": ", true⟩

/-- A sixteen-bit unit as an escape. -/
def unitEscape (n : Nat) : String := "\\u" ++ Text.hex 4 n

/-- One character of a JSON string. -/
def escapeChar (ascii : Bool) (c : Char) : String :=
  let n := c.toNat
  if c == '"' then "\\\""
  else if c == '\\' then "\\\\"
  else if n == 8 then "\\b"
  else if n == 12 then "\\f"
  else if c == '\n' then "\\n"
  else if c == '\r' then "\\r"
  else if c == '\t' then "\\t"
  else if n < 32 then unitEscape n
  else if ascii && 127 ≤ n then
    if n < 0x10000 then unitEscape n
    else unitEscape (0xd800 + (n - 0x10000) / 0x400) ++ unitEscape (0xdc00 + (n - 0x10000) % 0x400)
  else c.toString

/-- A JSON string. -/
def writeString (ascii : Bool) (s : String) : String :=
  "\"" ++ String.join (s.toList.map (escapeChar ascii)) ++ "\""

/-- A double in a JSON text. -/
def writeDouble (x : Double) : String :=
  match x with
  | .nan => "NaN"
  | .infinite true => "-Infinity"
  | .infinite false => "Infinity"
  | x => Decimal.shortText x

mutual
/-- A value as a JSON text. -/
def write (style : Style) : Json → String
  | .null => "null"
  | .bool true => "true"
  | .bool false => "false"
  | .int n => toString n
  | .float x => writeDouble x
  | .str s => writeString style.ascii s
  | .arr items => "[" ++ style.comma.intercalate (writeItems style items) ++ "]"
  | .obj fields => "\x7b" ++ style.comma.intercalate (writeFields style fields) ++ "\x7d"

def writeItems (style : Style) : List Json → List String
  | [] => []
  | j :: rest => write style j :: writeItems style rest

def writeFields (style : Style) : List (String × Json) → List String
  | [] => []
  | (key, j) :: rest =>
    (writeString style.ascii key ++ style.colon ++ write style j) :: writeFields style rest
end

/-- Parts between brackets, each on a line of its own that is indented by `depth` steps of two
blanks. -/
def inLines (depth : Nat) (opening closing : String) (parts : List String) : String :=
  let newLine (depth : Nat) : String := "\n" ++ String.ofList (List.replicate (2 * depth) ' ')
  opening ++ newLine depth ++ ("," ++ newLine depth).intercalate parts ++ newLine (depth - 1) ++
    closing

mutual
/-- A value as a JSON text for readers: every item on a line of its own, and no escapes that are
not needed. -/
def pretty (depth : Nat) : Json → String
  | .arr (j :: items) => inLines (depth + 1) "[" "]" (prettyItems (depth + 1) (j :: items))
  | .obj (f :: fields) =>
    inLines (depth + 1) "\x7b" "\x7d" (prettyFields (depth + 1) (f :: fields))
  | j => write compact j

def prettyItems (depth : Nat) : List Json → List String
  | [] => []
  | j :: rest => pretty depth j :: prettyItems depth rest

def prettyFields (depth : Nat) : List (String × Json) → List String
  | [] => []
  | (key, j) :: rest =>
    (writeString false key ++ ": " ++ pretty depth j) :: prettyFields depth rest
end

mutual
/-- A value as the literal that messages quote, with its texts in quotes. -/
def literal : Json → String
  | .null => "None"
  | .bool true => "True"
  | .bool false => "False"
  | .int n => toString n
  | .float x => Decimal.shortText x
  | .str s => Text.quoted s
  | .arr items => "[" ++ ", ".intercalate (literalItems items) ++ "]"
  | .obj fields => "\x7b" ++ ", ".intercalate (literalFields fields) ++ "\x7d"

def literalItems : List Json → List String
  | [] => []
  | j :: rest => literal j :: literalItems rest

def literalFields : List (String × Json) → List String
  | [] => []
  | (key, j) :: rest => (Text.quoted key ++ ": " ++ literal j) :: literalFields rest
end

/-- A value as text: a string as it is, anything else as its literal. -/
def display : Json → String
  | .str s => s
  | j => j.literal

end Pageflow.Json
