import Pageflow.Workflow.Decode
/-!
Binding a workflow to one task: what the caller gives becomes the values of the run.
-/
namespace Pageflow

/-- What a caller gives along with a workflow, unchecked. -/
structure Request where
  input : Option Json := none
  parameters : List (String × Json) := []
  correlationId : Json := .str ""

/-- The parameters with the input value under the key the workflow takes it under; the input value
wins over a parameter of the same name. -/
def Workflow.bindInput (w : Workflow) (input : Option Json) (parameters : List (String × Json)) :
    List (String × Json) :=
  match input with
  | some value => Json.setKey w.inputKey value parameters
  | none => parameters

/-- The values of a run of `w` as task `taskId`; all of them have to be texts. -/
def Workflow.bind (w : Workflow) (taskId : Json) (request : Request) : Schema.Checked TaskContext :=
  TaskContext.decode (.obj [("task_id", taskId), ("correlation_id", request.correlationId),
    ("parameters", .obj (w.bindInput request.input request.parameters))])

end Pageflow
