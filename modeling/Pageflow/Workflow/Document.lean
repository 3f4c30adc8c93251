import Pageflow.Json.Writer
import Pageflow.Number.Calendar
import Pageflow.Workflow.Basic
/-!
Workflows as documents, with every field written out under the document names of the
fields or under their plain names, and what a run of a workflow leaves behind.
-/
namespace Pageflow

/-- Which of the two names of a field a document uses. -/
inductive Naming where
  | document
  | plain
deriving DecidableEq

def Naming.pick (naming : Naming) (document plain : String) : String :=
  match naming with
  | .document => document
  | .plain => plain

def Source.toJson (s : Source) : Json := .obj [("name", s.name), ("selector", s.selector)]

/-- The fields of an action under its name. -/
def Action.fields (naming : Naming) : Action → List (String × Json)
  | .navigate url ready =>
    [("url", url), (naming.pick "readySelector" "ready_selector", ready)]
  | .wait ms => [("milliseconds", .int ms)]
  | .waitForSelector selector | .click selector | .scrollPage selector => [("selector", selector)]
  | .screenshot selector stitched saveAs =>
    [("selector", selector), ("stitched", stitched), (naming.pick "saveAs" "save_as", saveAs)]
  | .waitForNetworkIdle idle timeout _ =>
    [(naming.pick "idleMs" "idle_ms", .int idle), (naming.pick "timeoutMs" "timeout_ms", .int timeout)]
  | .extractData selector dataName =>
    [("selector", selector), (naming.pick "dataName" "data_name", dataName)]
  | .compositeExtract template sources dataName =>
    [("template", template), ("sources", .arr (sources.map Source.toJson)),
      (naming.pick "dataName" "data_name", dataName)]

def Step.write (naming : Naming) (s : Step) : Json :=
  .obj (("description", .str s.description) :: ("action", .str s.action.name) ::
    s.action.fields naming)

def RequiredInput.toJson (r : RequiredInput) : Json := .obj [("key", r.key), ("label", r.label)]

/-- An optional part of a document, `null` where it is missing. -/
def Json.ofOption {α : Type} (f : α → Json) : Option α → Json
  | some a => f a
  | none => .null

def Workflow.write (naming : Naming) (w : Workflow) : Json :=
  .obj [(naming.pick "workflowId" "workflow_id", w.id), ("name", w.name),
    ("description", w.description),
    (naming.pick "requiredInput" "required_input", Json.ofOption RequiredInput.toJson w.requiredInput),
    ("steps", .arr (w.steps.map (Step.write naming))), ("enabled", w.enabled),
    ("version", w.version), ("tags", .arr (w.tags.map .str))]

/-- A table of texts. -/
def Json.ofTable (pairs : List (String × String)) : Json :=
  .obj (pairs.map fun (key, value) => (key, .str value))

def TaskContext.toJson (c : TaskContext) : Json :=
  .obj [("task_id", c.taskId), ("correlation_id", c.correlationId),
    ("parameters", Json.ofTable c.parameters)]

def Failure.toJson (f : Failure) : Json :=
  .obj [("message", f.message), ("phase", f.phase), ("kind", f.kind.name),
    ("step_index", Json.ofOption .int f.stepIndex), ("diagnostic", f.diagnostic)]

/-! ## Executions -/

/-- A captured image that was stored: its name and its address. -/
structure Screenshot where
  name : String
  url : String
deriving DecidableEq

/-- The result of a run. Times are microseconds since 1970; `duration` is in seconds. -/
structure Execution where
  taskId : String
  workflowId : String
  data : List (String × String)
  screenshots : List Screenshot
  failure : Option Failure
  startedAt : Int
  completedAt : Int
  duration : Double
deriving DecidableEq

namespace Execution

/-- A run has completed exactly if it did not fail. -/
def completed (e : Execution) : Bool := e.failure.isNone

def status (e : Execution) : String := if e.completed then "completed" else "failed"

def toJson (e : Execution) : Json :=
  .obj [("task_id", e.taskId), ("workflow_id", e.workflowId), ("status", e.status),
    ("data", Json.ofTable e.data),
    ("screenshots", .arr (e.screenshots.map fun s => .obj [("name", s.name), ("url", s.url)])),
    ("error", Json.ofOption Failure.toJson e.failure),
    ("started_at", Calendar.stamp e.startedAt "Z"), ("completed_at", Calendar.stamp e.completedAt "Z"),
    ("duration_sec", .float e.duration)]

end Execution
end Pageflow
