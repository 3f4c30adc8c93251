import Pageflow.Service.Table
import Pageflow.Session.Manager
import Pageflow.Workflow.Binding
import Pageflow.Workflow.Directory
import Pageflow.Workflow.Run
/-!
The service: runs registered workflows as tasks and keeps a record of each. The result of a task is
entered into its record, and records of tasks that ended are dropped beyond a limit.
-/
namespace Pageflow

/-- What a caller gives along with a workflow that is to run as a task. -/
structure Order where
  /-- The task's id; a fresh one is made if it is left out or empty. -/
  taskId : Option String := none
  request : Request := {}
  metadata : List (String × Json) := []

/-- The order for one input of a batch. -/
def Order.forInput (order : Order) (input : Json) : Order :=
  { request := {
      input := if input.isNull then none else some input
      parameters := order.request.parameters }
    metadata := order.metadata }

/-- One run of a batch. -/
structure BatchItem where
  inputValue : Json
  taskId : String
  result : Execution

/-- The parts that a service works with. -/
structure Service where
  settings : Settings
  session : Session.Options
  /-- Pauses tasks at challenges, if that is wanted. -/
  coordinator : Option Pause.Coordinator
  /-- The sink with the latest event of each task. -/
  progress : Progress.SinkId
  /-- The time at which the service was assembled. -/
  startedAt : Double

namespace Service

/-- Changes the table of tasks. -/
def changeTasks (f : Table → Table) : Activity Unit :=
  Program.modify fun s => { s with tasks := f s.tasks }

/-- Adds a sink for the events of all tasks. -/
def addSink (sink : Progress.Sink) : Activity Progress.SinkId :=
  Program.update fun s =>
    let (id, bus) := s.bus.add sink none
    (id, { s with bus })

/-- Adds the sinks that the settings ask for. -/
def addMonitors (m : MonitoringSettings) : Activity Unit := do
  let _ ← addSink (.log [])
  if m.jsonlOutput then
    let _ ← addSink (.lines "")
  if !m.webhookUrl.isEmpty then
    let _ ← addSink (.webhook m.webhookUrl)

/-- Assembles a service. `headless` and `interactive` win over the settings. -/
def assemble (settings : Settings) (headless interactive : Option Bool) : Activity Service := do
  addMonitors settings.monitoring
  let progress ← addSink (.latest (.empty settings.runner.taskRetention))
  let coordinator :=
    if interactive.getD settings.challenge.enabled then some (.ofSettings settings.challenge) else none
  let startedAt ← Activity.elapsed
  return ⟨settings, .ofSettings settings.browser headless, coordinator, progress, startedAt⟩

/-- The seconds since the service was assembled. -/
def uptime (s : Service) : Activity Double := do return (← Activity.elapsed) - s.startedAt

/-- The directory of the workflows. -/
def directory (s : Service) : String := s.settings.runner.workflowDir

/-- Registers the workflows of the directory; yields how many there are. -/
def loadWorkflows (s : Service) : Activity Nat := do
  let files ← (.ask (.files s.directory) .done : Activity (FileTree (List Nat)))
  let workflows := Workflow.loadAll files (Path.ofString s.directory)
  Program.modify fun s => { s with registry := s.registry.registerAll workflows }
  return workflows.length

/-- The enabled workflow with an id. -/
def require (workflowId : String) : Activity Workflow := do
  Program.ofResult ((← Program.state).registry.require workflowId)

/-- The id that an order asks for, or a fresh one. -/
def chooseId (taskId : Option String) : Activity String :=
  match taskId.filter (!·.isEmpty) with
  | some id => pure id
  | none => Activity.freshId

/-- The input value as it is kept in a record. -/
def keptInput (input : Option Json) : Json :=
  match input with
  | some value => if value.truthy then value else .str ""
  | none => .str ""

/-- Enters a pending task for a workflow. -/
def enter (taskId workflowId : String) (order : Order) : Activity TaskRecord := do
  let now ← Activity.now
  Program.update fun s =>
    let (r, tasks) :=
      s.tasks.submit taskId workflowId (keptInput order.request.input) order.metadata now
    (r, { s with tasks })

/-- Enters a pending task for a registered workflow. -/
def submit (workflowId : String) (order : Order) : Activity TaskRecord := do
  let _ ← require workflowId
  let taskId ← chooseId order.taskId
  enter taskId workflowId order

/-- Drops the records of some tasks with the events of these tasks. -/
def discard (s : Service) (dropped : List String) (state : State) : State :=
  let forget : Progress.Sink → Progress.Sink
    | .latest store => .latest (dropped.foldl Progress.Store.forget store)
    | sink => sink
  { state with
    tasks := state.tasks.drop dropped, bus := state.bus.modifySink s.progress forget }

/-- Drops the oldest records of tasks that have ended, as many as there are too many, with the
events of these tasks; the record of `keep` stays. -/
def prune (s : Service) (keep : String) : Activity Unit :=
  Program.modify fun state =>
    s.discard (state.tasks.surplus s.settings.runner.taskRetention keep) state

/-- Runs workflows on pages of the session. -/
def runner (s : Service) : Runner :=
  { settings := s.settings, acquire := Session.acquire s.session, release := Session.release
    coordinator := s.coordinator, channel := Progress.busChannel }

/-- Runs a workflow as the task of a record and enters how it ended. -/
def execute (s : Service) (record : TaskRecord) (w : Workflow) (context : TaskContext) :
    Activity Execution := do
  changeTasks fun t => t.begin record.serial
  let result ← (s.runner.execute w context).attempt
  changeTasks fun t => t.finish record.serial result.toOption
  s.prune record.taskId
  Program.ofResult result

/-- The values of a run of a workflow; a fresh id is made if the request names no task. -/
def bindContext (w : Workflow) (taskId : Option String) (request : Request) :
    Activity TaskContext := do
  let taskId ← chooseId taskId
  Program.ofResult (w.bind taskId request).toResult

/-- The record that an order names, or a new one. -/
def recordFor (workflowId : String) (order : Order) : Activity TaskRecord := do
  let s ← Program.state
  match (order.taskId.filter (!·.isEmpty)).bind s.tasks.get? with
  | some record => pure record
  | none => submit workflowId order

/-- What an order runs: the record, the workflow and its values. -/
def prepare (workflowId : String) (order : Order) :
    Activity (TaskRecord × Workflow × TaskContext) := do
  let w ← require workflowId
  let record ← recordFor workflowId order
  let context ← bindContext w (some record.taskId) order.request
  return (record, w, context)

/-- Runs a registered workflow. -/
def run (s : Service) (workflowId : String) (order : Order) : Activity Execution := do
  let (record, w, context) ← prepare workflowId order
  s.execute record w context

/-- Runs a workflow that need not be registered. -/
def runWorkflow (s : Service) (w : Workflow) (context : TaskContext) : Activity Execution := do
  let record ← enter context.taskId w.id {}
  s.execute record w context

/-- Runs a registered workflow once for each input, one after the other. -/
def runEach (s : Service) (workflowId : String) (order : Order) :
    List Json → Activity (List BatchItem)
  | [] => pure []
  | input :: rest => do
    let result ← s.run workflowId (order.forInput input)
    return ⟨input, result.taskId, result⟩ :: (← s.runEach workflowId order rest)

/-- Runs a batch, unless it is too large or its workflow cannot run. -/
def runBatch (s : Service) (workflowId : String) (inputs : List Json) (order : Order) :
    Activity (List BatchItem) := do
  let limit := s.settings.runner.maxBatchSize
  if limit < inputs.length then
    .fail (.batchLimit inputs.length limit)
  else
    let _ ← require workflowId
    s.runEach workflowId order inputs

/-- Resumes a task; yields why not otherwise. -/
def resume (s : Service) (taskId : String) : Activity (Option Pause.Refusal) :=
  match s.coordinator with
  | some c => c.resume taskId
  | none => pure (some .notPaused)

/-- The tasks that wait to be resumed. -/
def pausedTasks (s : Service) (state : State) : List String :=
  if s.coordinator.isSome then state.board.tasks else []

/-- The latest event of a task. -/
def latest? (s : Service) (state : State) (taskId : String) : Option Progress.Event :=
  state.bus.latest? s.progress taskId

/-- Closes the session. -/
def shutdown : Activity Unit := Session.close

end Service
end Pageflow
