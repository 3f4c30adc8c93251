import Pageflow.Capture.Stitch
import Pageflow.Json.Value
import Pageflow.Network.Monitor
/-!
What is asked of a browser: calls on pages, on elements and on the browser itself, each with the
type of its answer.
-/
namespace Pageflow.Browser

/-- Names a page. -/
structure PageRef where
  number : Nat
deriving DecidableEq

/-- Names a browser context: one launch of the browser on the profile. -/
structure ContextRef where
  number : Nat
deriving DecidableEq

/-- An element that a page found for a selector. -/
structure ElementRef where
  page : PageRef
  selector : String
deriving DecidableEq

/-- The place of an element. -/
structure Box where
  x : Double
  y : Double
  width : Double
  height : Double
deriving DecidableEq

/-- The measures of a scrollable element in CSS pixels. -/
structure Metrics where
  scrollHeight : Option Double
  clientHeight : Option Double
  scrollTop : Option Double
  pixelRatio : Option Double
deriving DecidableEq

/-- A call on a page. -/
inductive PageCall where
  /-- Opens an address and waits until it is loaded, `timeoutMs` at most where it is given. -/
  | goto (url : String) (timeoutMs : Option Int)
  | click (selector : String) (timeoutMs : Int)
  /-- Waits until an element is visible. -/
  | waitFor (selector : String) (timeoutMs : Int)
  | query (selector : String)
  /-- Runs the script that reads the sibling after an anchor text. -/
  | readNextSibling (anchor child : String)
  /-- Runs the script that reads below the ancestors of an anchor text. -/
  | readAncestor (anchor child : String)
  /-- Runs the script that lists the elements that may be challenges. -/
  | candidates (selectors : List String)
  /-- Runs the script that measures an element. -/
  | measure (selector : String)
  /-- Runs the script that scrolls an element by its height less an overlap. -/
  | advance (selector : String) (overlap : Int)
  | screenshot (fullPage : Bool)
  | moveMouse (x y : Double)
  | wheel (dx dy : Int)
  | close
  | url
  | isClosed
  | setTimeout (ms : Int)
  | setNavigationTimeout (ms : Int)
  | listen (event : Network.RequestEvent)
  | unlisten (event : Network.RequestEvent)

/-- What a page answers to a call. -/
abbrev PageCall.Answer : PageCall → Type
  | .waitFor _ _ | .query _ => Option ElementRef
  | .readNextSibling _ _ | .readAncestor _ _ | .candidates _ => Json
  | .measure _ => Option Metrics
  | .screenshot _ => Capture.Picture
  | .url => String
  | .isClosed => Bool
  | _ => Unit

/-- A call on an element. -/
inductive ElementCall where
  | textContent
  | boundingBox
  | screenshot
deriving DecidableEq

/-- What an element answers to a call. -/
abbrev ElementCall.Answer : ElementCall → Type
  | .textContent => Option String
  | .boundingBox => Option Box
  | .screenshot => Capture.Picture

/-- A call on the browser as a whole. -/
inductive BrowserCall where
  /-- Starts the driver through which browsers are launched. -/
  | startDriver
  | stopDriver
  /-- Launches the browser on a profile directory. -/
  | launch (profile : String) (options : Json)
  | newPage (context : ContextRef)
  | closeContext (context : ContextRef)

/-- What the browser answers to a call. -/
abbrev BrowserCall.Answer : BrowserCall → Type
  | .launch _ _ => ContextRef
  | .newPage _ => PageRef
  | _ => Unit

end Pageflow.Browser
