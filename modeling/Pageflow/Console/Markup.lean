import Pageflow.Fault
import Pageflow.Text.Case
/-!
Styled text for the terminal. A tag in brackets opens a style until `[/style]` or `[/]` closes it; a
backslash before a bracket takes its meaning away. A terminal without colours shows the text alone.
-/
namespace Pageflow.Console.Markup

/-- The attributes of a style in the order in which a style names them, with their short names. -/
def attributes : List (String × String) :=
  [("bold", "b"), ("dim", "d"), ("italic", "i"), ("underline", "u"), ("blink", ""), ("blink2", ""),
    ("reverse", "r"), ("conceal", "c"), ("strike", "s"), ("underline2", "uu"), ("frame", ""),
    ("encircle", ""), ("overline", "o")]

/-- The attribute that a word stands for. -/
def attribute? (word : String) : Option String :=
  (attributes.find? fun (long, short) => word = long || (word = short && !short.isEmpty)).map (·.1)

/-- The colours that have a name of one word. -/
def colours : List String :=
  let plain := ["black", "red", "green", "yellow", "blue", "magenta", "cyan", "white"]
  "default" :: plain ++ plain.map ("bright_" ++ ·)

/-- The words of a text, which blanks separate. -/
def words (s : String) : List String :=
  (Text.split ' ' (s.map fun c => if Text.isBlank c then ' ' else c)).filter (!·.isEmpty)

/-- The name of a style in normal form: its attributes in their order under their long names, then
its colour. A name with words of other kinds is only trimmed and lowered. -/
def styleName (s : String) : String :=
  let given := (words s).map Text.lower
  let attributesGiven := given.filterMap attribute?
  let coloursGiven := given.filter colours.contains
  if attributesGiven.length + coloursGiven.length = given.length then
    Text.join " " ((attributes.map (·.1)).filter attributesGiven.contains ++
      coloursGiven.getLast?.toList)
  else Text.lower (Text.trim s)

/-- A tag as it is written: a name and what follows its first equals sign. -/
structure Tag where
  name : String
  value : Option String

/-- The tag that stands between brackets. -/
def Tag.ofChars (cs : List Char) : Tag :=
  match Text.cutAt? ['='] cs with
  | some (name, value) => ⟨String.ofList name, some (String.ofList value)⟩
  | none => ⟨String.ofList cs, none⟩

/-- The text of a tag with its brackets. -/
def Tag.source (t : Tag) : String :=
  "[" ++ t.name ++ ((t.value.map ("=" ++ ·)).getD "") ++ "]"

/-- The characters with which the text of a tag starts. -/
def startsTag (c : Char) : Bool := c.isLower || c == '#' || c == '/' || c == '@'

/-- What stands between brackets, given the text after the first one, if it is a tag. -/
def tagText? : List Char → Option (List Char)
  | [] => none
  | c :: cs =>
    let inner := cs.takeWhile fun c => c != ']' && c != '['
    if startsTag c && (cs.drop inner.length).head? = some ']' then some (c :: inner) else none

/-- A tag with the backslashes before it. -/
structure Match where
  slashes : Nat
  text : List Char

/-- How many characters a match covers. -/
def Match.length (m : Match) : Nat := m.slashes + m.text.length + 2

/-- Whether a backslash takes the meaning of the tag away; two of them stand for one. -/
def Match.isEscaped (m : Match) : Bool := m.slashes % 2 = 1

/-- What a match shows. -/
def Match.shown (m : Match) : List Char :=
  List.replicate (m.slashes / 2) '\\' ++
    if m.isEscaped then '[' :: m.text ++ [']'] else []

/-- The match at the start of a text. -/
def match? (cs : List Char) : Option Match :=
  let slashes := (cs.takeWhile (· == '\\')).length
  match cs.drop slashes with
  | '[' :: rest => (tagText? rest).map (⟨slashes, ·⟩)
  | _ => none

/-- The styles that are open after a tag, the innermost first. `position` is the place of the tag. -/
def Tag.apply (t : Tag) (position : Nat) (opened : List String) : Result (List String) :=
  match t.name.toList with
  | '/' :: rest =>
    let name := Text.trim (String.ofList rest)
    if name.isEmpty then
      match opened with
      | _ :: outer => .ok outer
      | [] =>
        .error (.foreign "MarkupError"
          ("closing tag '[/]' at position " ++ toString position ++ " has nothing to close"))
    else if opened.contains (styleName name) then .ok (opened.erase (styleName name))
    else
      .error (.foreign "MarkupError"
        ("closing tag '" ++ t.source ++ "' at position " ++ toString position ++
          " doesn't match any open tag"))
  | _ => .ok (styleName t.name :: opened)

/-- The styles that are open after a match at a place. -/
def Match.apply (m : Match) (position : Nat) (opened : List String) : Result (List String) :=
  if m.isEscaped then .ok opened
  else (Tag.ofChars m.text).apply (position + 2 * (m.slashes / 2)) opened

/-- What a text shows from a place on; `skip` counts the characters of a match that are still to be
passed over. -/
def shownFrom (skip position : Nat) (opened : List String) : List Char → Result (List Char)
  | [] => .ok []
  | c :: cs =>
    match skip with
    | skip + 1 => shownFrom skip (position + 1) opened cs
    | 0 =>
      match match? (c :: cs) with
      | some m =>
        match m.apply position opened with
        | .ok opened => (shownFrom (m.length - 1) (position + 1) opened cs).map (m.shown ++ ·)
        | .error fault => .error fault
      | none =>
        let escapes := c = '\\' && cs.head? = some '['
        (shownFrom 0 (position + 1) opened cs).map fun rest => if escapes then rest else c :: rest

/-- The controls that a terminal would act on: bell, backspace, vertical tab, form feed and carriage
return. -/
def isControl (c : Char) : Bool := [7, 8, 11, 12, 13].contains c.toNat

/-- How far apart tab stops are. -/
def tabWidth : Nat := 8

/-- Tabs as blanks up to the next tab stop, from a column on. -/
def expandTabs (column : Nat) : List Char → List Char
  | [] => []
  | c :: cs =>
    if c = '\t' then
      let n := tabWidth - column % tabWidth
      List.replicate n ' ' ++ expandTabs (column + n) cs
    else c :: expandTabs (if c = '\n' then 0 else column + 1) cs

/-- What a terminal without colours shows of a text. -/
def plain (s : String) : Result String :=
  (shownFrom 0 0 [] s.toList).map fun cs =>
    String.ofList (expandTabs 0 (cs.filter (!isControl ·)))

/-- A text in which every bracket stands for itself is shown as it is. -/
theorem shownFrom_of_no_bracket (cs : List Char) (h : '[' ∉ cs) (position : Nat)
    (opened : List String) : shownFrom 0 position opened cs = .ok cs := by
  induction cs generalizing position with
  | nil => rfl
  | cons c cs ih =>
    have hc : '[' ∉ cs := fun hm => h (List.mem_cons_of_mem _ hm)
    have hm : match? (c :: cs) = none := by
      unfold match?
      dsimp only
      split
      · rename_i rest heq
        exact absurd (List.mem_of_mem_drop (heq ▸ List.mem_cons_self)) h
      · rfl
    have he : ¬ cs.head? = some '[' := fun hh => hc (List.mem_of_mem_head? (by simp [hh]))
    simp [shownFrom, hm, ih hc, he, Except.map]

end Pageflow.Console.Markup
