import Pageflow.Challenge.Detection
import Pageflow.Dom.Selector
import Pageflow.Json.Writer
import Pageflow.Number.Decimal
/-!
The scripts that run inside a page: reading the text near an anchor text, and listing the elements
that may be challenges. Scripts measure texts in sixteen-bit units.
-/
namespace Pageflow.Text

/-- The number of sixteen-bit units of a character. -/
def unitsOf (c : Char) : Nat := if c.toNat < 0x10000 then 1 else 2

/-- The longest part from the start that has at most `n` units. A pair cut in the middle is
left out whole. -/
def takeUnits : Nat → List Char → List Char
  | _, [] => []
  | n, c :: cs => if unitsOf c ≤ n then c :: takeUnits (n - unitsOf c) cs else []

end Pageflow.Text

/-! ## Scripts -/
namespace Pageflow.Dom

/-- Every run of white space as one blank; `pending` tells whether a run has just been seen. -/
def collapse (pending : Bool) : List Char → List Char
  | [] => if pending then [' '] else []
  | c :: rest =>
    if Text.isScriptBlank c then collapse true rest
    else if pending then ' ' :: c :: collapse false rest
    else c :: collapse false rest

/-- Characters with every run of white space as one blank and none at the ends. -/
def normalize (cs : List Char) : List Char := Text.trimBy Text.isScriptBlank (collapse false cs)

/-- Whether the text of an element contains an anchor. -/
def Spot.contains (anchor : String) (s : Spot) : Bool :=
  Text.hasPart anchor.toList (normalize s.here.chars)

/-- The elements that contain an anchor, in document order. -/
def Document.anchors (d : Document) (anchor : String) : List Spot :=
  d.spots.filter (Spot.contains anchor)

/-- Why a script found no text. -/
inductive Miss where
  | anchor
  | sibling
  | ancestor
  | selector (child : String)
deriving DecidableEq

def Miss.message : Miss → String
  | .anchor => "anchor text not found"
  | .sibling => "anchor has no next sibling"
  | .ancestor => "no ancestor contains the child selector"
  | .selector child =>
    "invalid child selector: SyntaxError: '" ++ child ++ "' is not a valid selector"

/-- What the scripts that read texts yield. -/
abbrev Reading := Except Miss String

/-- A reading as the page hands it over. -/
def Reading.toJson : Reading → Json
  | .ok text => .obj [("value", .str text)]
  | .error miss => .obj [("error", .str miss.message)]

/-- The sibling after an element, or after the element around it. -/
def Spot.sibling? (s : Spot) : Option Spot :=
  match s.nextSibling? with
  | some next => some next
  | none => s.parent?.bind Spot.nextSibling?

/-- How a browser reads selectors: which elements one fits that is asked inside an element. A text
that is no selector has no meaning. -/
abbrev SelectorReader := (text : String) → Option ((scope : Spot) → Spot → Bool)

/-- Reads the selectors that do not depend on where they are asked. -/
def Selector.read : SelectorReader := fun text => (Selector.parse? text).map fun sel _ => sel.matches

/-- The first element inside `s` that fits a child selector, or `s` itself; an empty selector fits
none. -/
def Spot.target (read : SelectorReader) (s : Spot) (child : String) : Except Miss Spot :=
  if child.isEmpty then .ok s
  else
    match read child with
    | some fits => .ok ((s.descendants.find? (fits s)).getD s)
    | none => .error (.selector child)

/-- Reads the element after the last one of a tree that contains an anchor. -/
def Node.readNextSibling (read : SelectorReader) (root : Node) (anchor child : String) : Reading :=
  match ((root.spots [] []).filter (Spot.contains anchor)).getLast? with
  | none => .error .anchor
  | some s =>
    match s.sibling? with
    | none => .error .sibling
    | some sibling => Spot.trimmedText <$> sibling.target read child

def Document.readNextSibling (d : Document) (anchor child : String) : Reading :=
  d.root.readNextSibling Selector.read anchor child

/-- The elements around an element up to the body, the nearest first. -/
def Spot.enclosing (s : Spot) : List Spot := s.ancestors.takeWhile (!·.isBody)

/-- Reads the first element that fits `child` inside the nearest element around one that contains
an anchor; the last element that contains it is tried first. -/
def Document.readAncestor (d : Document) (anchor child : String) : Reading :=
  match d.anchors anchor with
  | [] => .error .anchor
  | found =>
    match found.reverse.flatMap Spot.enclosing with
    | [] => .error .ancestor
    | around =>
      match Selector.parse? child with
      | none => .error (.selector child)
      | some sel =>
        match around.findSome? sel.firstIn? with
        | some s => .ok s.trimmedText
        | none => .error .ancestor

/-- How transparent an element is by itself: the number that its opacity starts with. -/
def Traits.opacity? (t : Traits) : Option Double :=
  Decimal.leading? (t.opacity.toList.dropWhile Text.isScriptBlank)

/-- Whether an element by itself lets what is in it show through. -/
def Traits.isTransparent (t : Traits) : Bool := t.opacity?.any Double.isZero

/-- Whether an element is shown: it is not hidden, has an extent, and neither it nor an element
around it is fully transparent. -/
def Spot.isRendered (s : Spot) : Bool :=
  let t := s.here.traits
  t.display != "none" && t.visibility != "hidden" &&
    Double.lt 0 t.width && Double.lt 0 t.height &&
    (s.here :: s.above).all fun f => !f.traits.isTransparent

/-- How much of the text of a candidate is looked at, in UTF-16 units. -/
def candidateUnits : Nat := 4000

/-- The text of an element as it is shown, cut off. -/
def Spot.shownText (s : Spot) : String :=
  let text := s.here.traits.innerText
  String.ofList (Text.takeUnits candidateUnits (if text.isEmpty then s.here.chars else text.toList))

/-- The elements of a tree that a selector fits, asked at its outermost element, in document order.
A text that is no selector fits none. -/
def Node.selected (read : SelectorReader) (root : Node) (selector : String) : List Spot :=
  match read selector, root.spots [] [] with
  | some fits, outermost :: inside => (outermost :: inside).filter (fits outermost)
  | _, _ => []

/-- What a page tells of an element that a selector fits. -/
def Spot.candidate (selector : String) (s : Spot) : Challenge.Candidate :=
  { selector, visible := s.isRendered, text := if s.isRendered then s.shownText else "" }

/-- The candidates in a tree, in the order of the selectors. -/
def Node.candidates (read : SelectorReader) (root : Node) (selectors : List String) :
    List Challenge.Candidate :=
  selectors.flatMap fun selector => (root.selected read selector).map (Spot.candidate selector)

/-- The candidates of some selectors, in the order of the selectors. -/
def Document.candidates (d : Document) (selectors : List String) : List Challenge.Candidate :=
  d.root.candidates Selector.read selectors

end Pageflow.Dom
