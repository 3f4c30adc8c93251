import Pageflow.Schema.Scalar
import Pageflow.Json.Writer
import Pageflow.Workflow.Basic
/-!
Workflows from documents. Fields are found under their document names or their plain names, what
is unknown is ignored, and every issue is reported.
-/
namespace Pageflow

open Schema

def Source.decode : Json → Checked Source
  | .obj fields =>
    Source.mk <$> required fields "name" "name" text
      <*> required fields "selector" "selector" text
  | _ => .fail (.modelType "CompositeSource")

/-- A number of milliseconds, not negative. -/
def milliseconds (j : Json) : Checked Nat := Int.toNat <$> intAtLeast 0 j

/-- A positive number of milliseconds. -/
def positiveMs (j : Json) : Checked { n : Nat // 0 < n } :=
  (intAtLeast 1 j).andThen fun n =>
    if h : 0 < n.toNat then .valid ⟨n.toNat, h⟩ else .fail (.atLeast "1")

/-- The fields of one action after the description, or nothing for an unknown name. -/
def Action.decodeFields? (name : String) (fields : List (String × Json)) :
    Option (Checked Action) :=
  match name with
  | "navigate" => some <|
    Action.navigate <$> required fields "url" "url" text
      <*> optional fields "readySelector" "ready_selector" "" text
  | "wait" => some <|
    Action.wait <$> optional fields "milliseconds" "milliseconds" 1000 milliseconds
  | "waitForSelector" => some <|
    Action.waitForSelector <$> required fields "selector" "selector" text
  | "click" => some <|
    Action.click <$> required fields "selector" "selector" text
  | "screenshot" => some <|
    Action.screenshot <$> optional fields "selector" "selector" "" text
      <*> optional fields "stitched" "stitched" false bool
      <*> optional fields "saveAs" "save_as" "" text
  | "scrollPage" => some <|
    Action.scrollPage <$> optional fields "selector" "selector" "" text
  | "waitForNetworkIdle" => some <|
    (fun idle timeout => Action.waitForNetworkIdle idle timeout.val timeout.property)
      <$> optional fields "idleMs" "idle_ms" 1000 milliseconds
      <*> optional fields "timeoutMs" "timeout_ms" ⟨60000, by decide⟩ positiveMs
  | "extractData" => some <|
    Action.extractData <$> required fields "selector" "selector" text
      <*> required fields "dataName" "data_name" text
  | "compositeExtract" => some <|
    Action.compositeExtract <$> required fields "template" "template" text
      <*> optional fields "sources" "sources" [] (listOf Source.decode)
      <*> required fields "dataName" "data_name" text
  | _ => none

/-- A step: the field `action` decides which other fields it has. -/
def Step.decode : Json → Checked Step
  | .obj fields =>
    match fields.lookup "action" with
    | none => .fail (.tagMissing "action")
    | some tag =>
      match tag.str?.bind fun name => (Action.decodeFields? name fields).map (name, ·) with
      | none => .fail (.tagUnknown "action" tag.display Action.names)
      | some (name, action) =>
        (Step.mk <$> optional fields "description" "description" "" text <*> action).under
          (.key name)
  | _ => .fail .objectType

def RequiredInput.decode : Json → Checked RequiredInput
  | .obj fields =>
    RequiredInput.mk <$> optional fields "key" "key" defaultInputKey text
      <*> optional fields "label" "label" "" text
  | _ => .fail (.modelType "RequiredInput")

/-- A text that is a workflow id. -/
def workflowId (j : Json) : Checked { s : String // isWorkflowId s = true } :=
  (text j).andThen fun s =>
    if h : isWorkflowId s = true then .valid ⟨s, h⟩
    else .fail (.stringPattern "^[a-z0-9_]+$")

/-- A non-empty list of steps. -/
def stepList (j : Json) : Checked { steps : List Step // steps ≠ [] } :=
  (listOf Step.decode j).andThen fun steps =>
    if h : steps ≠ [] then .valid ⟨steps, h⟩ else .fail (.tooShort 1)

/-- A workflow from its document. -/
def Workflow.decode : Json → Checked Workflow
  | .obj fields =>
    (fun id name description input steps enabled version tags =>
        { id := id.val, name, description, requiredInput := input, steps := steps.val, enabled,
          version, tags, id_valid := id.property, steps_ne := steps.property })
      <$> required fields "workflowId" "workflow_id" workflowId
      <*> optional fields "name" "name" "" text
      <*> optional fields "description" "description" "" text
      <*> optional fields "requiredInput" "required_input" none (nullable RequiredInput.decode)
      <*> required fields "steps" "steps" stepList
      <*> optional fields "enabled" "enabled" true bool
      <*> optional fields "version" "version" "1.0" text
      <*> optional fields "tags" "tags" [] (listOf text)
  | _ => .fail (.modelType "Workflow")

/-- The values of a run from a document. -/
def TaskContext.decode : Json → Checked TaskContext
  | .obj fields =>
    TaskContext.mk <$> required fields "task_id" "task_id" text
      <*> optional fields "correlation_id" "correlation_id" "" text
      <*> optional fields "parameters" "parameters" [] (tableOf text)
  | _ => .fail (.modelType "TaskContext")

/-- One of the kinds of failure by its name. -/
def FaultKind.decode (j : Json) : Checked FaultKind :=
  match j.str?.bind fun s => FaultKind.all.find? (·.name = s) with
  | some kind => .valid kind
  | none => .fail (.choice (FaultKind.all.map FaultKind.name))

/-- A failure from a document. -/
def Failure.decode : Json → Checked Failure
  | .obj fields =>
    Failure.mk <$> required fields "message" "message" text
      <*> required fields "phase" "phase" text
      <*> optional fields "kind" "kind" .internal FaultKind.decode
      <*> optional fields "step_index" "step_index" none (nullable int)
      <*> optional fields "diagnostic" "diagnostic" "" text
  | _ => .fail (.modelType "ExecutionError")

end Pageflow
