import Pageflow.Fault.Document
import Pageflow.Http.Body
import Pageflow.Http.Message
import Pageflow.Service.Basic
/-!
Answers to requests. Most are given at once; a run that was only queued goes on after its response
is sent, and its faults are nobody's concern.
-/
namespace Pageflow.Http

/-- A response, and the queued run that goes on after it. -/
structure Reply where
  response : Response
  queued : Option (String × Order) := none

/-- A reply that is a document. -/
def Reply.ok (document : Json) : Reply := ⟨⟨200, .json document, none⟩, none⟩

def Reply.detail (status : Nat) (text : String) : Reply := ⟨.detail status text, none⟩

/-- The reply to a request whose body has issues. -/
def Reply.issues (issues : List Schema.Issue) : Reply :=
  ⟨⟨422, .json (.obj [("detail", .arr (issues.map Schema.Issue.toJson))]), none⟩, none⟩

/-- The status of the response to a request that cannot be carried out. -/
def refusalStatus : Fault → Option Nat
  | .workflowNotFound _ => some 404
  | .workflowDisabled _ | .batchLimit _ _ => some 400
  | _ => none

/-- Replies to a request that cannot be carried out; other faults stay faults. -/
def orRefuse (reply : Activity Reply) : Activity Reply :=
  reply.rescueIf (fun fault => (refusalStatus fault).isSome) fun fault =>
    pure (.detail ((refusalStatus fault).getD 400) fault.message)

/-- A number rounded to one digit after the point. -/
def tenths (x : Double) : Double := (Decimal.read? (Decimal.fixed 1 x).toList).getD x

/-- What is told of a service. -/
def statusJson (s : Service) (state : State) (uptime : Double) : Json :=
  .obj [("status", "running"), ("uptime_sec", .float (tenths uptime)),
    ("browser_live", .bool state.session.isLive), ("workflows", .int state.registry.count),
    ("running_tasks", .arr (state.tasks.running.map .str)),
    ("paused_tasks", .arr ((s.pausedTasks state).map .str))]

/-- What is told of a task. -/
def taskJson (s : Service) (state : State) (r : Service.TaskRecord) : Json :=
  .obj [("task_id", r.taskId), ("workflow_id", r.workflowId), ("status", r.status.name),
    ("progress", Json.ofOption Progress.Event.toJson (s.latest? state r.taskId)),
    ("paused", .bool ((s.pausedTasks state).contains r.taskId)),
    ("result", Json.ofOption Execution.toJson r.result)]

/-- What is told of a workflow in a list. -/
def summaryJson (w : Workflow) : Json :=
  .obj [("workflow_id", w.id), ("name", w.name), ("description", w.description),
    ("enabled", .bool w.enabled), ("version", w.version), ("step_count", .int w.steps.length),
    ("required_input", Json.ofOption RequiredInput.toJson w.requiredInput),
    ("tags", .arr (w.tags.map .str))]

def batchItemJson (i : BatchItem) : Json :=
  .obj [("input_value", i.inputValue), ("task_id", i.taskId), ("status", i.result.status),
    ("result", i.result.toJson)]

def batchJson (workflowId : String) (items : List BatchItem) : Json :=
  .obj [("workflow_id", workflowId), ("total_count", .int items.length),
    ("success_count", .int (items.filter (·.result.completed)).length),
    ("results", .arr (items.map batchItemJson))]

def resumeJson (taskId : String) (refusal : Option Pause.Refusal) : Json :=
  .obj [("task_id", taskId), ("accepted", .bool refusal.isNone),
    ("reason", .str ((refusal.map (·.name)).getD ""))]

/-- Texts as the values of a request. -/
def parameterValues (parameters : List (String × String)) : List (String × Json) :=
  parameters.map fun (key, value) => (key, .str value)

/-- What a body asks for, as the task of an id or of a fresh one. -/
def TaskBody.order (b : TaskBody) (taskId : Option String := none) : Order :=
  { taskId, metadata := b.metadata
    request :=
      { input := b.inputValue.map .str, parameters := parameterValues b.parameters
        correlationId := .str b.correlationId } }

def BatchBody.order (b : BatchBody) : Order :=
  { metadata := b.metadata, request := { parameters := parameterValues b.parameters } }

/-- What a queued task's submitter is told. -/
def acceptedJson (taskId : String) : Json :=
  .obj [("task_id", taskId), ("status", Service.TaskStatus.pending.name),
    ("message",
      "Task queued. Poll /tasks/\x7btask_id\x7d or subscribe to /ws/progress/\x7btask_id\x7d.")]

/-- Queues a run. -/
def replySubmit (b : TaskBody) : Activity Reply := do
  let record ← Service.submit b.workflowId b.order
  return ⟨⟨202, .json (acceptedJson record.taskId), none⟩,
    some (b.workflowId, b.order (some record.taskId))⟩

/-- Runs a workflow and waits for the result. -/
def replyExecute (s : Service) (b : TaskBody) : Activity Reply := do
  return .ok (← s.run b.workflowId b.order).toJson

/-- Runs a batch and waits for all results. -/
def replyBatch (s : Service) (b : BatchBody) : Activity Reply := do
  let items ← s.runBatch b.workflowId (b.inputValues.map .str) b.order
  return .ok (batchJson b.workflowId items)

/-- Replies by what the body of a request asks for. -/
def withBody {α : Type} (body : Body) (check : List (String × Json) → Schema.Checked α)
    (reply : α → Activity Reply) : Activity Reply :=
  match body.check check with
  | .valid a => orRefuse (reply a)
  | .invalid issues => pure (.issues issues)

/-- The reply of an endpoint. -/
def Endpoint.reply (s : Service) (body : Body) : Endpoint → Activity Reply
  | .health => pure (.ok (.obj [("status", "ok")]))
  | .status => do
    let uptime ← s.uptime
    return .ok (statusJson s (← Program.state) uptime)
  | .submit => withBody body TaskBody.decode replySubmit
  | .execute => withBody body TaskBody.decode (replyExecute s)
  | .batch => withBody body BatchBody.decode (replyBatch s)
  | .task taskId => do
    let state ← Program.state
    match state.tasks.get? taskId with
    | some record => return .ok (taskJson s state record)
    | none => return .detail 404 "Task not found."
  | .resume taskId => do return .ok (resumeJson taskId (← s.resume taskId))
  | .workflows => do
    return .ok (.arr ((← Program.state).registry.workflows.map summaryJson))
  | .workflow workflowId => do
    match (← Program.state).registry.get? workflowId with
    | some w => return .ok (w.write .document)
    | none => return .detail 404 ("Workflow '" ++ workflowId ++ "' not found")

/-- Whether the body of a request for an endpoint is read. -/
def Endpoint.readsBody : Endpoint → Bool
  | .submit | .execute | .batch => true
  | _ => false

/-- The reply to a request for an endpoint. Only health is told of when no service runs. -/
def replyAt (service : Option Service) (r : Request) (e : Endpoint) : Activity Reply :=
  match if e.readsBody then readBody r else .ok .empty, service, e with
  | .error (.malformed place), _, _ =>
    pure (.issues [⟨[.key "body", .index place], .jsonInvalid⟩])
  | .error .unreadable, _, _ => pure (.detail 400 "There was an error parsing the body")
  | .ok body, some s, e => e.reply s body
  | .ok _, none, .health => pure (.ok (.obj [("status", "ok")]))
  | .ok _, none, _ => pure (.detail 503 "Automation service is not running.")

/-- The reply to a request. -/
def reply (service : Option Service) (r : Request) : Activity Reply :=
  match route r.method r.segments with
  | .endpoint e => replyAt service r e
  | .wrongMethod => pure (.detail 405 "Method Not Allowed")
  | .redirected => pure ⟨⟨307, .text "", none⟩, none⟩
  | .unknown => pure (.detail 404 "Not Found")

/-- Answers a request and carries out the run that it queues, if it does. -/
def answer (service : Option Service) (allowedOrigins : List String) (r : Request) :
    Activity Response :=
  match preflight? allowedOrigins r with
  | some response => pure response
  | none => do
    let reply ← reply service r
    if let (some s, some (workflowId, order)) := (service, reply.queued) then
      Program.ignore do
        let _ ← s.run workflowId order
    return (reply.response.share allowedOrigins r).forMethod r.method

end Pageflow.Http
