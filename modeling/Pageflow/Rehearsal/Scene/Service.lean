import Pageflow.Rehearsal.Scene.Files
import Pageflow.Rehearsal.Scene.Pause
import Pageflow.Service.Basic
/-!
Scenes with a service: tasks are submitted, run, resumed and cancelled while time passes.
-/
namespace Pageflow.Rehearsal.Scene

open Browser Pageflow.Service

/-- A service on its stage, with the jobs that have not ended. -/
structure Site where
  stage : Stage
  service : Service
  jobs : List (String × Nat)

/-- The directories of a service, below the directory of the scene. -/
def ownDirectories : Fields :=
  let below (name : String) : Json := .str (rootPath.child name).toString
  [("project_root", .str rootPath.toString), ("browser", .obj [("profile_dir", below "profile")]),
    ("storage", .obj [("local_dir", below "blobs")]),
    ("runner", .obj [("workflow_dir", below "workflows")])]

/-- The settings of a scene. -/
def serviceSettings (input : Json) : Result Settings :=
  Settings.load (fun _ => []) [] (Settings.deepMerge ownDirectories (input.getD "settings").fields)

/-- The world in which a service works. -/
def serviceWorld (input : Json) (settings : Settings) : Result World := do
  let world := browserWorld input (input.itemsAt "pages")
  let files := withFiles Content.bytes world.files (Path.ofString settings.runner.workflowDir)
    (input.getD "files")
  let store ← Blob.Store.ofSettings settings.storage
  pure { world with files, storage := .store store }

/-- Registers workflows from their documents. -/
def registerAll (p : Stage) (documents : List Json) : Result Stage := do
  let workflows ← documents.mapM fun j => (Workflow.decode j).toResult
  pure (p.changeState fun s => { s with registry := s.registry.registerAll workflows })

/-- Whether an option is given, and its value. -/
def choice? (j : Json) (key : String) : Option Bool := (j.get? key).bind Json.bool?

/-- The service of a scene, before anything is asked of it. -/
def openSite (input : Json) : Result Site := do
  let settings ← serviceSettings input
  let p ← registerAll (stageIn (← serviceWorld input settings)) (input.itemsAt "workflows")
  let build := input.getD "build"
  let (r, p) := p.immediately
    (Service.assemble settings (choice? build "headless") (choice? build "interactive"))
  match r with
  | some r =>
    let service ← r
    pure ⟨p, { service with session := { service.session with driven := false } }, []⟩
  | none => throw .cancelled

/-- What the options of a call ask for. -/
def orderOf (options : Json) : Order :=
  { taskId := options.textAt? "task_id"
    request :=
      { input := options.present "input_value", parameters := (options.getD "parameters").fields
        correlationId := (options.get? "correlation_id").getD (.str "") }
    metadata := (options.getD "metadata").fields }

def recordJson (r : TaskRecord) : Json :=
  .obj [("task_id", r.taskId), ("workflow_id", r.workflowId), ("status", r.status.name),
    ("input_value", r.inputValue), ("metadata", .obj r.metadata),
    ("result", Json.ofOption executionJson r.result),
    ("created_at", Calendar.stamp r.createdAt "+00:00")]

def batchItemJson (i : BatchItem) : Json :=
  .obj [("input_value", i.inputValue), ("task_id", i.taskId), ("result", executionJson i.result)]

namespace Site

/-- Does something that takes no time. -/
def answer (site : Site) (activity : Activity Json) : Fields × Site :=
  let (r, p) := site.stage.immediately activity
  ((r.getD (.error .cancelled)).fieldsAs "result", { site with stage := p })

/-- Begins a job under a name. -/
def start (site : Site) (name : String) (activity : Activity Json) : Fields × Site :=
  let (jobs, p) := site.stage.beginNamed site.jobs name activity
  ([], { site with stage := p, jobs })

def onStage (site : Site) (f : Stage → Stage) : Fields × Site :=
  ([], { site with stage := f site.stage })

/-- Closes the newest context. -/
def vanishLast (p : Stage) : Stage :=
  if p.world.contexts.isEmpty then p else vanish p (p.world.contexts.length - 1)

/-- Runs a workflow of its own. -/
def startWorkflow (site : Site) (op : Json) : Fields × Site :=
  match (Workflow.decode (op.item 2)).toResult with
  | .error f => (f.fields, site)
  | .ok w =>
    let order := orderOf (op.item 3)
    site.start (op.textItem 1) (do
      let context ← bindContext w order.taskId order.request
      return executionJson (← site.service.runWorkflow w context))

/-- One step with a service. -/
def act (site : Site) (op : Json) : Fields × Site :=
  let s := site.service
  match op.textItem 0 with
  | "load" => site.answer (do return .int (← s.loadWorkflows))
  | "submit" => site.answer (recordJson <$> submit (op.textItem 1) (orderOf (op.item 2)))
  | "run" =>
    site.start (op.textItem 1) (executionJson <$> s.run (op.textItem 2) (orderOf (op.item 3)))
  | "run_batch" =>
    site.start (op.textItem 1) (do
      let items ← s.runBatch (op.textItem 2) (op.item 3).items (orderOf (op.item 4))
      return .arr (items.map batchItemJson))
  | "run_workflow" => site.startWorkflow op
  | "resume" => site.start (op.textItem 1) (verdictJson <$> s.resume (op.textItem 2))
  | "advance" => site.onStage fun p => p.pass (op.intItem 1)
  | "get" =>
    ([("result", Json.ofOption recordJson (site.stage.shared.state.tasks.get? (op.textItem 1)))],
      site)
  | "cancel" => site.answer (Json.bool <$> Pause.cancel (op.textItem 1))
  | "vanish" => site.onStage vanishLast
  | "shutdown" =>
    let (fields, p) := site.stage.finishUnit shutdown
    (fields, { site with stage := p })
  | _ => ([], site)

/-- The tasks of the progress store with their latest events. -/
def progressJson (site : Site) : Json :=
  match site.stage.shared.state.bus.sink? site.service.progress with
  | some (.latest store) =>
    .arr (store.entries.map fun (task, e) =>
      .arr [.str task, .str e.status.name, .int e.stepIndex])
  | _ => .arr []

/-- What is reported of a service after each step. -/
def report (site : Site) : Fields :=
  let p := site.stage
  let state := p.shared.state
  let uptime := (p.now 0 site.service.uptime).1
  [("t", p.millis),
    ("tasks", .arr (state.tasks.records.map fun r => .arr [.str r.taskId, .str r.status.name])),
    ("running", .arr (state.tasks.running.map .str)),
    ("paused", .arr ((site.service.pausedTasks state).map .str)), ("progress", site.progressJson),
    ("live", .bool state.session.isLive)] ++ inMillisFields [("uptime_sec", .float uptime)]

/-- Lets everything happen that needs no time; reports the jobs that have ended. -/
def settled (site : Site) : Json × Site :=
  let p := site.stage.settled
  let (ended, jobs) := p.ended site.jobs
  (.obj ended, { site with stage := p, jobs })

/-- The lines that were written of events. -/
def eventLines (site : Site) : String :=
  (site.stage.shared.state.bus.sinks.filterMap fun
    | .lines text => some text
    | _ => none).head?.getD ""

/-- The posts to webhooks. -/
def postsJson (site : Site) : Json :=
  .arr (site.stage.world.posts.map fun (url, body) => .arr [.str "POST", .str url, body])

/-- The paths of the stored pictures. -/
def storedPaths (site : Site) : List String :=
  ((site.stage.world.files.filesBelow (Path.ofString site.service.settings.storage.localDir)).map
    (·.1)).mergeSort fun p q => decide (p ≤ q)

end Site

/-- A service. -/
def service (input : Json) : Result Fields := do
  let (steps, site) := inOrder (fun (site : Site) op =>
    let (fields, site) := site.act op
    let (ended, site) := site.settled
    (fields ++ ("ended", ended) :: site.report, site)) (← openSite input) (input.itemsAt "ops")
  let registry := site.stage.shared.state.registry
  pure (withoutRoot "root" [("steps", .arr steps),
    ("registry", .arr (registry.workflows.map fun w => .str w.id)),
    ("blobs", .arr (site.storedPaths.map .str)), ("jsonl", .str site.eventLines),
    ("webhook", site.postsJson)])

end Pageflow.Rehearsal.Scene
