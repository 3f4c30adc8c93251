import Pageflow.Rehearsal.Scene.Basic
import Pageflow.Capture.LongCapture
import Pageflow.Capture.Scroll
import Pageflow.Challenge.Detector
import Pageflow.Selector.Extraction
/-!
Scenes with one page: extracting, looking for challenges, scrolling, capturing and following the
network.
-/
namespace Pageflow.Rehearsal.Scene

open Browser

/-- The text of an expression, or why there is none. -/
def extraction (input : Json) : Result Fields := do
  let (page, p) := stageWithPage (input.getD "page")
  let e := Expression.parse (input.textAt "expression")
  let (r, p) := p.finish (do
    match ← extract page (input.intAt "timeout_ms" 15000) e with
    | .value text => return .arr [.bool true, .str text, .str ""]
    | .miss reason => return .arr [.bool false, .null, reason])
  let outcome ← r
  pure [("ok", outcome.item 0), ("value", outcome.item 1), ("reason", outcome.item 2),
    ("calls", p.calls page)]

def detectionJson (d : Challenge.Detection) : Json :=
  let fields (found : Bool) (selector keyword reason url : String) : Json :=
    .obj [("detected", found), ("selector", selector), ("matched_keyword", keyword),
      ("dismissed_reason", reason), ("page_url", url)]
  match d with
  | .found selector keyword url => fields true selector keyword "" url
  | .dismissed reason url => fields false "" "" reason.name url

/-- The detector that a document describes. -/
def detectorOf (input : Json) : Challenge.Detector :=
  .new (input.getD "selectors").texts (input.getD "keywords").texts

/-- What a detector finds on a page after some time. -/
def detection (input : Json) : Result Fields := do
  let script := input.getD "page"
  let (page, p) := stageWithPage script
  let page? := if script.isNull then none else some page
  let d := detectorOf input
  let p := p.pass (input.intAt "at")
  let (found, p) := p.finish (detectionJson <$> d.inspect page?)
  let found ← found
  let (active, p) := p.finish (Json.bool <$> d.isActive page?)
  pure [("detection", found), ("active", ← active), ("keywords", .arr (d.keywords.map .str)),
    ("evaluations", .int (p.livePage page).calls.length)]

/-- Scrolling a page to the bottom. -/
def scrolling (input : Json) : Result Fields := do
  let (page, p) := stageWithPage (input.getD "page")
  let o := input.getD "options"
  let plain : Capture.ScrollOptions := {}
  let options : Capture.ScrollOptions :=
    { delta := o.intAt "delta_px" plain.delta, pauseMs := o.intAt "pause_ms" plain.pauseMs
      stableRounds := o.intAt "stable_rounds" plain.stableRounds
      maxRounds := o.intAt "max_rounds" plain.maxRounds }
  let (rounds, p) := p.finish (do
    return .int (← Capture.scrollToBottom page (input.textAt "selector") options))
  pure [("rounds", ← rounds), ("t", p.millis), ("calls", p.calls page)]

/-- A long capture of an element. -/
def capture (input : Json) : Result Fields :=
  let (page, p) := stageWithPage (input.getD "page")
  let o := input.getD "options"
  let plain : Capture.LongOptions := {}
  let options : Capture.LongOptions :=
    { overlap := o.intAt "overlap_px" plain.overlap, idleMs := o.intAt "idle_ms" plain.idleMs
      idleTimeoutMs := o.intAt "idle_timeout_ms" plain.idleTimeoutMs
      maxTiles := o.intAt "max_tiles" plain.maxTiles
      timeoutMs := o.intAt "timeout_ms" plain.timeoutMs, quiet := input.truthAt "network" }
  let (r, p) := p.finish (do
    if options.quiet then
      Network.watch page
      Network.attach page
    return pictureJson (← Capture.captureLong page options (input.textAt "selector")))
  .ok (r.fieldsAs "image" ++ [("t", p.millis), ("calls", p.calls page)])

def eventOf? (name : String) : Option Network.RequestEvent :=
  Network.RequestEvent.all.find? (·.name = name)

/-- Makes a page emit an event some milliseconds from now, or at once. -/
def emit (p : Stage) (page : PageRef) (delay : Option Int) (event : String) (id : Json) : Stage :=
  match eventOf? event, delay with
  | some e, none => p.ring (.request page e (id.write Json.compact))
  | some e, some ms =>
    p.addAlarm (p.world.micros + ms * 1000) (.request page e (id.write Json.compact))
  | none, _ => p

/-- One step with a monitor. -/
def networkAct (page : PageRef) (pollMs : Nat) (p : Stage) (op : Json) : Fields × Stage :=
  match op.textItem 0 with
  | "attach" => ([], (p.now () (Network.attach page)).2)
  | "detach" => ([], (p.now () (Network.detach page)).2)
  | "emit" => ([], emit p page none (op.textItem 1) (op.item 2))
  | "later" => ([], emit p page (some (op.intItem 1)) (op.textItem 2) (op.item 3))
  | "advance" => ([], p.pass (op.intItem 1))
  | "wait" =>
    let (r, p) := p.finish (do
      Network.waitForIdle page { idleMs := op.intItem 1, timeoutMs := op.intItem 2, pollMs }
      return .bool true)
    (r.fieldsAs "idle", p)
  | _ => ([], p)

/-- How often each event of a page is listened for, where it is. -/
def listenersJson (p : Stage) (page : PageRef) : Json :=
  .obj (Network.RequestEvent.all.filterMap fun e =>
    let n := (p.livePage page).listenerCount e
    if n = 0 then none else some (e.name, .int n))

/-- Following the requests of a page. -/
def network (input : Json) : Result Fields :=
  let (page, p) := stageWithPage (input.getD "page")
  let (_, p) := p.now () (Network.watch page)
  let pollMs := input.natAt "poll_ms" Network.defaultPollMs
  let (steps, _) := inOrder (fun p op =>
    let (fields, p) := networkAct page pollMs p op
    let inflight := (p.shared.state.monitor page).inflight.length
    (fields ++ [("t", p.millis), ("inflight", .int inflight), ("listeners", listenersJson p page)],
      p)) p (input.itemsAt "ops")
  .ok [("steps", .arr steps)]

end Pageflow.Rehearsal.Scene
