import Pageflow.Rehearsal.Scene.Pause
import Pageflow.Workflow.Decode
import Pageflow.Workflow.Run
/-!
Scenes with a single run of a workflow, while an operator resumes it or cancels its pauses.
-/
namespace Pageflow.Rehearsal.Scene

open Browser

/-- Waits until a time and acts on a paused task. -/
def operatorAct (c : Option Pause.Coordinator) (taskId : String) (o : Json) : Activity Json := do
  let atMs := o.intItem 0
  Activity.sleep (Activity.seconds atMs)
  if o.textItem 1 = "cancel" then
    return .arr [.int atMs, .bool (← Pause.cancel taskId)]
  let refusal ← match c with
    | some c => c.resume taskId
    | none => pure (some .notPaused)
  let v := verdictJson refusal
  return .arr [.int atMs, v.getD "accepted", v.getD "reason"]

/-- The observer under which a scene counts the pages that are handed back. -/
def handedBack : String := "handed back"

/-- A runner on a single page that is opened already. -/
def onePageRunner (settings : Settings) (coordinator : Option Pause.Coordinator) (page : PageRef)
    (refusal : Option Fault) : Runner :=
  { settings, coordinator, channel := Progress.busChannel
    acquire := match refusal with
      | some f => .fail f
      | none => pure page
    release := fun page => do
      Session.change fun s => { s with told := s.told ++ [handedBack] }
      page.call .close }

/-- One run of a workflow. -/
def run (input : Json) : Result Fields := do
  let document := input.getD "workflow"
  let document := if (document.get? "workflowId").isSome then document
    else .obj (("workflowId", .str "wf") :: document.fields)
  let w ← (Workflow.decode document).toResult
  let context := (input.get? "context").getD (.obj [("task_id", "t1")])
  let context ← (TaskContext.decode context).toResult
  let settings ← Settings.load (fun _ => []) []
    ((input.getD "settings").fields ++ [("project_root", .str "/proj")])
  let faults := faultsOfJson (input.getD "upload_faults")
  let (page, p) := stageWithPage (input.getD "page") { bareWorld with faults }
  let (sink, p) := p.addMemory
  let coordinator := if input.truthAt "interactive" then some (.ofSettings settings.challenge) else none
  let runner := onePageRunner settings coordinator page
    ((input.get? "acquire_error").map Fault.ofJson)
  let (id, p) := p.begin none (Turn.ended <$> (executionJson <$> runner.execute w context))
  let (operators, p) := (input.itemsAt "operator").foldl (fun (ids, p) o =>
    let (id, p) := Pool.begin p none (Turn.ended <$> operatorAct coordinator context.taskId o)
    (ids ++ [id], p)) (([] : List Nat), p)
  let p := p.runJob id
  let result := (p.result? id).getD (.error .cancelled)
  let acted := operators.filterMap fun id => (p.result? id).bind Except.toOption
  let uploads := p.world.uploads.map fun (path, data) =>
    Json.obj [("path", path), ("data", pictureJson data)]
  let listeners : Nat :=
    Network.RequestEvent.all.foldl (fun n e => n + (Stage.livePage p page).listenerCount e) 0
  pure (result.fieldsAs "result" ++
    [("events", .arr ((Stage.eventsKept p sink).map eventRow)), ("uploads", .arr uploads),
      ("operator", .arr acted), ("calls", Stage.calls p page), ("listeners", .int listeners),
      ("released", .int p.shared.state.session.told.length),
      ("paused", .arr (p.shared.state.board.tasks.map .str))])

end Pageflow.Rehearsal.Scene
