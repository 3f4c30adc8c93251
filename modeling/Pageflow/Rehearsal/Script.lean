import Pageflow.Browser.Call
import Pageflow.Dom.Script
import Pageflow.Fault.Document
import Pageflow.Json.Value
/-!
Scripts of pages: what a rehearsed page holds, when it shows it and how it fails. All times are
milliseconds from the start of the rehearsal.
-/
namespace Pageflow.Rehearsal

/-- A fault at a call of a method: at the call of that number, or at every call for number 0. -/
structure ScriptedFault where
  method : String
  call : Nat
  fault : Fault

/-- The fault of a call. -/
def faultAt? (faults : List ScriptedFault) (method : String) (call : Nat) : Option Fault :=
  (faults.find? fun f => f.method = method && (f.call = 0 || f.call = call)).map (·.fault)

/-- A scrollable element. Heights are CSS pixels. -/
structure ScrollArea where
  content : Option Double := none
  client : Option Double := none
  ratio : Option Double := some 1
  top : Double := 0
  width : Nat := 2
  /-- The rows of a tile, where they do not follow from the height. -/
  tile : Option Nat := none
  /-- Whether scrolling does nothing. -/
  stuck : Bool := false
  /-- The content heights after some numbers of scrolls. -/
  grow : List (Nat × Option Double) := []
  /-- The number of scrolls after which the element is gone. -/
  lostAfter : Option Nat := none

/-- An element that is found by one selector. -/
structure ScriptedElement where
  text : Option String := some ""
  shot : String := "element-png"
  box : Option Browser.Box := some ⟨0, 0, 100, 50⟩
  appears : Int := 0
  vanishes : Option Int := none
  /-- Whether waiting for the element yields nothing at once. -/
  missing : Bool := false
  scroll : Option ScrollArea := none

/-- A challenge that is on the page for some time. -/
structure ScriptedChallenge where
  selector : String
  text : Json
  visible : Json
  begins : Int
  ends : Option Int

/-- The answer of the reading scripts to an anchor. -/
structure ScriptedAnchor where
  text : String
  child : Option String
  mode : Option String
  result : Json

/-- A request that a page makes. -/
structure ScriptedRequest where
  id : String
  start : Int
  finish : Option Int
  failed : Bool

/-- What a page is scripted to do. -/
structure PageScript where
  url : String := "https://example.test/"
  elements : List (String × ScriptedElement) := []
  shots : List String := ["page-png"]
  fullShot : String := "full-png"
  latency : List (String × Int) := []
  closedAt : Option Int := none
  faults : List ScriptedFault := []
  challenges : List ScriptedChallenge := []
  /-- The answer of the script that lists candidates, where it is not made from the challenges. -/
  candidates : Option Json := none
  anchors : List ScriptedAnchor := []
  /-- The document, where the scripts run on one. -/
  document : Option Dom.Document := none
  requests : List ScriptedRequest := []

namespace ScriptedElement

/-- Whether an element is there at a time. -/
def present (e : ScriptedElement) (micros : Int) : Bool :=
  e.appears * 1000 ≤ micros &&
    match e.vanishes with
    | some ms => micros < ms * 1000
    | none => true

/-- The first time from `now` to `deadline` at which an element is there. -/
def nextPresence? (e : ScriptedElement) (now deadline : Int) : Option Int :=
  let time := max now (e.appears * 1000)
  let lasts := match e.vanishes with
    | some ms => decide (time < ms * 1000)
    | none => true
  if time ≤ deadline && lasts then some time else none

end ScriptedElement

/-- Whether a challenge is on the page at a time. -/
def ScriptedChallenge.active (c : ScriptedChallenge) (micros : Int) : Bool :=
  c.begins * 1000 ≤ micros &&
    match c.ends with
    | some ms => micros < ms * 1000
    | none => true

namespace ScrollArea

/-- The content height after some scrolls. -/
def contentAfter (a : ScrollArea) (scrolls : Nat) : Option Double :=
  a.grow.foldl (fun height (n, later) => if n ≤ scrolls then later else height) a.content

/-- Whether the element is gone after some scrolls. -/
def isLost (a : ScrollArea) (scrolls : Nat) : Bool :=
  match a.lostAfter with
  | some n => n ≤ scrolls
  | none => false

/-- The pixels that a length takes up. -/
def pixels (a : ScrollArea) (length : Double) : Int :=
  let ratio := match a.ratio with
    | some r => if r.isZero then Double.ofInt 1 else r
    | none => 1
  ((length * ratio).roundHalfUp?).getD 0

/-- The larger of two numbers. -/
def larger (x y : Double) : Double := if x.le y then y else x

/-- The smaller of two numbers. -/
def smaller (x y : Double) : Double := if x.le y then x else y

/-- The position after one more scroll from `top`, the `scrolls`-th. -/
def scrolled (a : ScrollArea) (scrolls : Nat) (top : Double) (overlap : Int) : Double :=
  if a.stuck then top
  else
    let client := a.client.getD 0
    let content := (a.contentAfter scrolls).getD 0
    smaller (larger 0 (content - client)) (top + larger 1 (client - Double.ofInt overlap))

/-- A row whose colour tells its number. -/
def rulerRow (width : Nat) (n : Int) : List Capture.Pixel :=
  List.replicate width ⟨(n % 256).toNat, (n / 256 % 256).toNat, 7, 255⟩

/-- The picture of the element at a position: rows whose colours count on from the position. -/
def ruler (a : ScrollArea) (top : Double) : Capture.Picture :=
  let height := a.tile.getD (a.pixels (a.client.getD 0)).toNat
  let first := a.pixels top
  .image ⟨a.width, (List.range height).map fun (i : Nat) => rulerRow a.width (first + (i : Nat))⟩

end ScrollArea

/-! ## Scripts as documents

What a document leaves out is as on a page that says nothing. -/

/-- Scripted faults: `on` names the method, `call` the number of the call. -/
def faultsOfJson (j : Json) : List ScriptedFault :=
  j.items.map fun f =>
    { method := f.textAt "on", call := f.natAt "call", fault := Fault.ofJson (f.getD "error") }

/-- A number that may be `null`, with a default where the key is missing. -/
def numberAt (j : Json) (key : String) (default : Option Double) : Option Double :=
  match j.get? key with
  | some value => value.double?
  | none => default

def ScrollArea.ofJson (j : Json) : ScrollArea :=
  { content := numberAt j "content" none, client := numberAt j "client" none
    ratio := numberAt j "dpr" (some 1), top := j.doubleAt "top" 0, width := j.natAt "width" 2
    tile := j.natAt? "tile", stuck := j.truthAt "stuck"
    grow := (j.itemsAt "grow").map fun g => ((g.intItem 0).toNat, (g.item 1).double?)
    lostAfter := j.natAt? "lost_after" }

/-- A place from its four numbers. -/
def boxOfJson (j : Json) : Option Browser.Box :=
  match j.items.filterMap Json.double? with
  | [x, y, width, height] => some ⟨x, y, width, height⟩
  | _ => none

def ScriptedElement.ofJson (j : Json) : ScriptedElement :=
  let plain : ScriptedElement := {}
  { text := match j.get? "text" with
      | some value => value.str?
      | none => plain.text
    shot := j.textAt "shot" plain.shot
    box := match j.get? "box" with
      | some value => boxOfJson value
      | none => plain.box
    appears := j.intAt "at", vanishes := j.intAt? "until", missing := j.truthAt "none"
    scroll := (j.present "scroll").map ScrollArea.ofJson }

/-- The traits of an element from its document. -/
def traitsOfJson (j : Json) : Dom.Traits :=
  let style := j.getD "style"
  let box := (j.itemsAt "box").filterMap Json.double?
  { tag := j.textAt "tag" "div", attributes := (j.getD "attrs").textTable
    display := style.textAt "display", visibility := style.textAt "visibility"
    opacity := style.textAt "opacity" "1", width := box[0]?.getD 100, height := box[1]?.getD 50
    innerText := j.textAt "innerText" }

mutual
/-- A node of a document: a text, or an element with its children. -/
def nodeOfJson : Json → Dom.Node
  | .str s => .text s
  | .obj fields => .element (traitsOfJson (.obj fields)) (childrenOfFields fields)
  | _ => .text ""

/-- The nodes under the key of the children. -/
def childrenOfFields : List (String × Json) → List Dom.Node
  | [] => []
  | (key, value) :: rest => if key = "children" then childrenOfJson value else childrenOfFields rest

def childrenOfJson : Json → List Dom.Node
  | .arr items => nodesOfJson items
  | _ => []

def nodesOfJson : List Json → List Dom.Node
  | [] => []
  | j :: rest => nodeOfJson j :: nodesOfJson rest
end

def ScriptedChallenge.ofJson (j : Json) : ScriptedChallenge :=
  { selector := j.textAt "selector", text := j.getD "text"
    visible := (j.get? "visible").getD (.bool true), begins := j.intAt "from"
    ends := j.intAt? "until" }

def ScriptedAnchor.ofJson (j : Json) : ScriptedAnchor :=
  { text := j.textAt "text", child := j.textAt? "child", mode := j.textAt? "mode"
    result := j.getD "result" }

def ScriptedRequest.ofJson (j : Json) : ScriptedRequest :=
  { id := (j.getD "id").write Json.compact, start := j.intAt "start", finish := j.intAt? "end"
    failed := j.truthAt "failed" }

def PageScript.ofJson (j : Json) : PageScript :=
  let plain : PageScript := {}
  { url := j.textAt "url" plain.url
    elements := (j.getD "elements").fields.map fun (key, e) => (key, .ofJson e)
    shots := match j.get? "shots" with
      | some value => value.texts
      | none => plain.shots
    fullShot := j.textAt "full_shot" plain.fullShot
    latency := (j.getD "latency").fields.filterMap fun (key, ms) => ms.int?.map (key, ·)
    closedAt := j.intAt? "closed_at", faults := faultsOfJson (j.getD "faults")
    challenges := (j.itemsAt "challenges").map .ofJson, candidates := j.get? "candidates"
    anchors := (j.itemsAt "anchors").map .ofJson
    document := (j.get? "dom").map fun d => ⟨nodesOfJson d.items⟩
    requests := (j.itemsAt "requests").map .ofJson }

end Pageflow.Rehearsal
