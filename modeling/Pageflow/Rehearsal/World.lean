import Pageflow.Blob.Store
import Pageflow.Activity.Basic
import Pageflow.Rehearsal.Script
/-!
The world of a rehearsal: a clock that only waiting moves, scripted pages and browsers, a file
tree, clients and a terminal, with records of all that was asked of them.
-/
namespace Pageflow.Rehearsal

open Browser

/-- A page as far as it has come. -/
structure LivePage where
  script : PageScript
  url : String
  closed : Bool := false
  /-- What was asked of the page, in order. -/
  calls : List Json := []
  /-- How often each method was called. -/
  counts : List (String × Nat) := []
  /-- How many pictures of the viewport were taken. -/
  shotsTaken : Nat := 0
  /-- The position of each element that was scrolled and how often it was. -/
  scrolls : List (String × Nat × Double) := []
  /-- How often each event is listened for. -/
  listeners : List (Network.RequestEvent × Nat) := []

/-- A page that has just been opened. -/
def LivePage.opened (script : PageScript) : LivePage := { script, url := script.url }

/-- The content of a file. -/
inductive Content where
  | bytes (b : List Nat)
  | picture (p : Capture.Picture)

/-- Where pictures are stored. -/
inductive Storage where
  /-- In memory only. -/
  | memory
  | store (s : Blob.Store)

/-- A client of a socket. -/
structure Client where
  name : String
  inbox : List String := []
  gone : Bool := false
  /-- Whether sending to it fails. -/
  broken : Bool := false
  sent : List Frame := []

/-- The world of a rehearsal. -/
structure World where
  /-- Microseconds since the start. -/
  micros : Int := 0
  pages : List LivePage := []
  /-- The scripts of the pages that the browser opens; the last one repeats. -/
  scripts : List PageScript := []
  /-- Whether each context that was launched is closed. -/
  contexts : List Bool := []
  /-- How long a launch takes, in milliseconds. -/
  launchMs : Int := 0
  faults : List ScriptedFault := []
  counts : List (String × Nat) := []
  /-- What was asked of the browser. -/
  log : List Json := []
  ids : Nat := 0
  files : FileTree Content := .empty
  storage : Storage := .memory
  uploads : List (String × Capture.Picture) := []
  posts : List (String × Json) := []
  clients : List Client := []
  printed : List String := []
  /-- The lines that will be entered: how long after a line is asked for, in milliseconds. -/
  entries : List Int := []
  /-- The jobs to begin and to end. -/
  starting : List Job := []
  stopping : List Job := []

/-- Counts a call of a method; yields its number. -/
def countCall (counts : List (String × Nat)) (method : String) : Nat × List (String × Nat) :=
  let n := (counts.lookup method).getD 0 + 1
  (n, (method, n) :: counts.filter (·.1 ≠ method))

namespace World

/-- The seconds since the start. -/
def seconds (w : World) : Double := (Double.ofInt w.micros).div 1000000

/-- The milliseconds since the start. -/
def millis (w : World) : Int := w.micros / 1000

/-- The time some seconds from now. -/
def after (w : World) (seconds : Double) : Int :=
  (((w.seconds + seconds) * 1000000).roundHalfEven?).getD w.micros

def page? (w : World) (p : PageRef) : Option LivePage := w.pages[p.number]?

def modifyPage (w : World) (p : PageRef) (f : LivePage → LivePage) : World :=
  { w with pages := w.pages.modify p.number f }

/-- Records a call of a page. -/
def recordCall (w : World) (p : PageRef) (call : List Json) : World :=
  w.modifyPage p fun page => { page with calls := page.calls ++ [.arr (.int w.millis :: call)] }

/-- Records what was asked of the browser. -/
def recordLog (w : World) (entry : List Json) : World :=
  { w with log := w.log ++ [.arr (.int w.millis :: entry)] }

/-- Counts a call of a page's method; yields its fault, if it has one. -/
def countPageCall (w : World) (p : PageRef) (method : String) : Option Fault × World :=
  match w.page? p with
  | none => (none, w)
  | some page =>
    let (n, counts) := countCall page.counts method
    (faultAt? page.script.faults method n, w.modifyPage p fun page => { page with counts })

/-- Counts a call outside of pages; yields its fault, if it has one. -/
def countOwnCall (w : World) (method : String) : Option Fault × World :=
  let (n, counts) := countCall w.counts method
  (faultAt? w.faults method n, { w with counts })

/-- Whether a page is closed. -/
def isClosed (w : World) (p : PageRef) : Bool :=
  match w.page? p with
  | none => true
  | some page =>
    page.closed ||
      match page.script.closedAt with
      | some ms => ms * 1000 ≤ w.micros
      | none => false

/-- Opens a page with a script. -/
def openPage (w : World) (script : PageScript) : PageRef × World :=
  (⟨w.pages.length⟩, { w with pages := w.pages ++ [.opened script] })

/-- The script of the page that is opened next. -/
def nextScript (w : World) : PageScript :=
  match w.scripts[w.pages.length]? with
  | some script => script
  | none => w.scripts.getLast?.getD {}

def modifyClient (w : World) (name : String) (f : Client → Client) : World :=
  { w with clients := w.clients.map fun c => if c.name = name then f c else c }

def client? (w : World) (name : String) : Option Client := w.clients.find? (·.name = name)

end World

namespace LivePage

/-- The element of a selector. -/
def element? (p : LivePage) (selector : String) : Option ScriptedElement :=
  p.script.elements.lookup selector

/-- How often the element of a selector was scrolled, and its position. -/
def scrollState (p : LivePage) (selector : String) (a : ScrollArea) : Nat × Double :=
  (p.scrolls.lookup selector).getD (0, a.top)

/-- The measures of the element of a selector. -/
def metrics? (p : LivePage) (selector : String) : Option Metrics := do
  let element ← p.element? selector
  let area ← element.scroll
  let (scrolls, top) := p.scrollState selector area
  if area.isLost scrolls then none
  else pure ⟨area.contentAfter scrolls, area.client, some top, area.ratio⟩

/-- Scrolls the element of a selector. -/
def advance (p : LivePage) (selector : String) (overlap : Int) : LivePage :=
  match (p.element? selector).bind (·.scroll) with
  | none => p
  | some area =>
    let (scrolls, top) := p.scrollState selector area
    let next := (scrolls + 1, area.scrolled (scrolls + 1) top overlap)
    { p with scrolls := (selector, next) :: p.scrolls.filter (·.1 ≠ selector) }

/-- The picture of the element of a selector. -/
def elementPicture (p : LivePage) (selector : String) : Capture.Picture :=
  match p.element? selector with
  | none => .raw ""
  | some element =>
    match element.scroll with
    | none => .raw element.shot
    | some area => area.ruler (p.scrollState selector area).2

/-- The next picture of the viewport. -/
def viewportPicture (p : LivePage) : Capture.Picture × LivePage :=
  let shot := match p.script.shots[p.shotsTaken]? with
    | some shot => shot
    | none => p.script.shots.getLast?.getD ""
  (.raw shot, { p with shotsTaken := p.shotsTaken + 1 })

/-- The answer of a reading script. -/
def reading (p : LivePage) (mode anchor child : String) (onDocument : Dom.Document → Dom.Reading) :
    Json :=
  match p.script.document with
  | some d => (onDocument d).toJson
  | none =>
    let fits (a : ScriptedAnchor) : Bool :=
      a.text = anchor && (a.child.getD child = child) && (a.mode.getD mode = mode)
    match p.script.anchors.find? fits with
    | some a => a.result
    | none => Dom.Reading.toJson (.error .anchor)

/-- A candidate as the page lists it. -/
def candidateJson (selector visible text : Json) : Json :=
  .obj [("selector", selector), ("visible", visible), ("text", text)]

/-- The answer of the script that lists candidates. -/
def candidates (p : LivePage) (micros : Int) (selectors : List String) : Json :=
  match p.script.document, p.script.candidates with
  | some d, _ =>
    .arr ((d.candidates selectors).map Challenge.Candidate.toJson)
  | none, some listed => listed
  | none, none =>
    .arr (selectors.flatMap fun selector =>
      (p.script.challenges.filter fun c => c.selector = selector && c.active micros).map fun c =>
        candidateJson c.selector c.visible c.text)

/-- How often an event is listened for. -/
def listenerCount (p : LivePage) (event : Network.RequestEvent) : Nat :=
  (p.listeners.lookup event).getD 0

def setListeners (p : LivePage) (event : Network.RequestEvent) (n : Nat) : LivePage :=
  { p with listeners := (event, n) :: p.listeners.filter (·.1 ≠ event) }

end LivePage
end Pageflow.Rehearsal
