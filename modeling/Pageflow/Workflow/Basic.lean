import Pageflow.Fault
/-!
Workflows: named, ordered lists of steps, and the values they are run with. Every text of a step
may hold placeholders, which are resolved before the run.
-/
namespace Pageflow

/-- One named source of a composite extraction. -/
structure Source where
  name : String
  selector : String
deriving DecidableEq

/-- What a step does. -/
inductive Action where
  /-- Open `url` and wait for the marker that shows the page is ready. -/
  | navigate (url readySelector : String)
  | wait (milliseconds : Nat)
  | waitForSelector (selector : String)
  | click (selector : String)
  /-- Capture an element, or the whole page without a selector, and store the image. -/
  | screenshot (selector : String) (stitched : Bool) (saveAs : String)
  | scrollPage (selector : String)
  | waitForNetworkIdle (idleMs timeoutMs : Nat) (timeout_pos : 0 < timeoutMs)
  | extractData (selector dataName : String)
  /-- Extract several sources and put them into a template. -/
  | compositeExtract (template : String) (sources : List Source) (dataName : String)
deriving DecidableEq

/-- The name of an action in documents and reports. -/
def Action.name : Action → String
  | .navigate _ _ => "navigate"
  | .wait _ => "wait"
  | .waitForSelector _ => "waitForSelector"
  | .click _ => "click"
  | .screenshot _ _ _ => "screenshot"
  | .scrollPage _ => "scrollPage"
  | .waitForNetworkIdle _ _ _ => "waitForNetworkIdle"
  | .extractData _ _ => "extractData"
  | .compositeExtract _ _ _ => "compositeExtract"

/-- The names of all actions. -/
def Action.names : List String :=
  ["navigate", "wait", "waitForSelector", "click", "screenshot", "scrollPage",
    "waitForNetworkIdle", "extractData", "compositeExtract"]

/-- One step of a workflow. -/
structure Step where
  description : String
  action : Action
deriving DecidableEq

/-- The single value a caller supplies when running a workflow by value. -/
structure RequiredInput where
  key : String
  label : String
deriving DecidableEq

/-- Characters of a workflow id. -/
def isIdChar (c : Char) : Bool := c.isLower || c.isDigit || c == '_'

/-- A workflow id is a non-empty text of lower-case letters, digits and underscores. -/
def isWorkflowId (s : String) : Bool := !s.isEmpty && s.toList.all isIdChar

/-- An ordered, non-empty list of steps under an id. -/
structure Workflow where
  id : String
  name : String
  description : String
  requiredInput : Option RequiredInput
  steps : List Step
  enabled : Bool
  version : String
  tags : List String
  id_valid : isWorkflowId id = true
  steps_ne : steps ≠ []
deriving DecidableEq

/-- The key under which an input value is stored when a workflow names none. -/
def defaultInputKey : String := "target_id"

/-- The key under which a workflow takes its input value. -/
def Workflow.inputKey (w : Workflow) : String :=
  match w.requiredInput with
  | some input => input.key
  | none => defaultInputKey

/-- The values of one run of a workflow. -/
structure TaskContext where
  taskId : String
  correlationId : String
  parameters : List (String × String)
deriving DecidableEq

/-- Why a run failed: `phase` names the action that failed, or the session. -/
structure Failure where
  message : String
  phase : String
  kind : FaultKind
  stepIndex : Option Int
  diagnostic : String
deriving DecidableEq

/-- How a single step ended. -/
inductive Outcome where
  | ok (detail : String)
  /-- The step missed its aim in a way that does not end the run. -/
  | recovered (detail : String)
  | fatal (failure : Failure)
deriving DecidableEq

namespace Outcome

def tag : Outcome → String
  | .ok _ => "ok"
  | .recovered _ => "recovered"
  | .fatal _ => "fatal"

def detail : Outcome → String
  | .ok d | .recovered d => d
  | .fatal failure => failure.message

def failure? : Outcome → Option Failure
  | .fatal failure => some failure
  | _ => none

end Outcome
end Pageflow
