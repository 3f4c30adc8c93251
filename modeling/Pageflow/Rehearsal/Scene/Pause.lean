import Pageflow.Pause.Coordinator
import Pageflow.Rehearsal.Scene.Page
import Pageflow.Rehearsal.Scene.Session
/-!
Scenes with pauses: tasks that wait at challenges, and requests to resume them.
-/
namespace Pageflow.Rehearsal.Scene

open Browser

/-- The answer to a request to resume. -/
def verdictJson (refusal : Option Pause.Refusal) : Json :=
  .obj [("accepted", .bool refusal.isNone), ("reason", .str ((refusal.map (·.name)).getD ""))]

/-- One step with a coordinator. -/
def pauseAct (c : Pause.Coordinator) (pages : List (String × PageRef)) (p : Stage)
    (jobs : List (String × Nat)) (op : Json) : Fields × List (String × Nat) × Stage :=
  let page := (op.item 3).str?.bind fun name => pages.lookup name
  match op.textItem 0 with
  | "checkpoint" =>
    ([], p.beginNamed jobs (op.textItem 1)
      (Json.bool <$> c.checkpoint (op.textItem 2) page (op.intItem 4) (op.intItem 5)))
  | "pause" =>
    ([], p.beginNamed jobs (op.textItem 1) (do
      c.pause (op.textItem 2) page 0 0
      return .null))
  | "resume" =>
    ([], p.beginNamed jobs (op.textItem 1) (verdictJson <$> c.resume (op.textItem 2)))
  | "cancel" =>
    let (cancelled, p) := p.now false (Pause.cancel (op.textItem 1))
    ([("result", .bool cancelled)], jobs, p)
  | "is_paused" =>
    ([("result", .bool (p.shared.state.board.isPaused (op.textItem 1)))], jobs, p)
  | "advance" => ([], jobs, p.pass (op.intItem 1))
  | _ => ([], jobs, p)

/-- A coordinator and its tasks. -/
def pauses (input : Json) : Result Fields :=
  let (pages, world) := (input.getD "pages").fields.foldl (fun (refs, world) (name, script) =>
    let (page, world) := World.openPage world (.ofJson script)
    (refs ++ [(name, page)], world)) (([] : List (String × PageRef)), bareWorld)
  let (sink, p) := (stageIn world).addMemory
  let c : Pause.Coordinator :=
    { detector := detectorOf input
      channel := if input.truthAt "silent" then none else Progress.busChannel
      timeoutSec := input.doubleAt "pause_timeout_sec" 900 }
  let (steps, _) := inOrder (fun ((p, jobs) : Stage × List (String × Nat)) op =>
    let seen := (p.eventsKept sink).length
    let (fields, jobs, p) := pauseAct c pages p jobs op
    let p := Stage.settled p
    let (ended, jobs) := p.ended jobs
    (fields ++ [("t", p.millis), ("paused", .arr (p.shared.state.board.tasks.map .str)),
      ("ended", .obj ended), ("events", .arr (((p.eventsKept sink).drop seen).map eventRow))],
      p, jobs)) (p, []) (input.itemsAt "ops")
  .ok [("steps", .arr steps)]

end Pageflow.Rehearsal.Scene
