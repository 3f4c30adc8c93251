import Pageflow.Number.Double
import Pageflow.Text.Blank
/-!
Documents as trees of elements and texts. An element is looked at in its place: with the elements
around it and the nodes that follow it.
-/
namespace Pageflow.Dom

/-- What an element has of its own. An empty display or visibility is the default one. -/
structure Traits where
  tag : String
  attributes : List (String × String)
  display : String
  visibility : String
  opacity : String
  width : Double
  height : Double
  /-- The text as it is shown, where it differs from the text of the nodes. -/
  innerText : String
deriving DecidableEq

/-- The traits of an element that says nothing. -/
def Traits.plain (tag : String) : Traits :=
  { tag, attributes := [], display := "", visibility := "", opacity := "1", width := 100
    height := 50, innerText := "" }

/-- A node of a document. -/
inductive Node where
  | text (content : String)
  | element (traits : Traits) (children : List Node)

instance : Inhabited Node := ⟨.text ""⟩

mutual
/-- The characters of a node and of what is in it. -/
def Node.chars : Node → List Char
  | .text content => content.toList
  | .element _ children => charsOf children

def charsOf : List Node → List Char
  | [] => []
  | node :: rest => node.chars ++ charsOf rest
end

/-- An element with the nodes that follow it below the same parent. -/
structure Frame where
  traits : Traits
  children : List Node
  followers : List Node

/-- The characters of an element. -/
def Frame.chars (f : Frame) : List Char := charsOf f.children

/-- An element in its place: the elements around it stand in `above`, the nearest first. -/
@[ext]
structure Spot where
  here : Frame
  above : List Frame

mutual
/-- The elements of a node that is followed by `followers`, in document order. -/
def Node.spots (above : List Frame) (followers : List Node) : Node → List Spot
  | .text _ => []
  | .element traits children =>
    let f : Frame := ⟨traits, children, followers⟩
    ⟨f, above⟩ :: spotsIn (f :: above) children

/-- The elements of some nodes, in document order. -/
def spotsIn (above : List Frame) : List Node → List Spot
  | [] => []
  | node :: rest => node.spots above rest ++ spotsIn above rest
end

namespace Spot

/-- The elements inside an element, in document order. -/
def descendants (s : Spot) : List Spot := spotsIn (s.here :: s.above) s.here.children

/-- The element around an element. -/
def parent? (s : Spot) : Option Spot :=
  match s.above with
  | [] => none
  | f :: above => some ⟨f, above⟩

/-- The elements around an element, the nearest first. -/
def ancestorsOf : List Frame → List Spot
  | [] => []
  | f :: above => ⟨f, above⟩ :: ancestorsOf above

def ancestors (s : Spot) : List Spot := ancestorsOf s.above

/-- The first element among some nodes. -/
def firstElement? : List Node → Option Frame
  | [] => none
  | .text _ :: rest => firstElement? rest
  | .element traits children :: rest => some ⟨traits, children, rest⟩

/-- The next element below the same parent. -/
def nextSibling? (s : Spot) : Option Spot := (firstElement? s.here.followers).map (⟨·, s.above⟩)

/-- Whether an element is the body of its document. -/
def isBody (s : Spot) : Bool := s.above.length = 1

/-- The text of an element without the white space around it. -/
def trimmedText (s : Spot) : String := String.ofList (Text.trimBy Text.isScriptBlank s.here.chars)

end Spot

/-- A document: the content of its body. -/
structure Document where
  content : List Node

/-- The outermost element, which holds the body and nothing else. -/
def Document.root (d : Document) : Node :=
  .element (.plain "html") [.element (.plain "body") d.content]

/-- All elements, in document order. -/
def Document.spots (d : Document) : List Spot := d.root.spots [] []

end Pageflow.Dom
