import Pageflow.Text.Case
import Pageflow.Workflow.Basic
/-!
From a fault raised by a step to the failure of the run.
-/
namespace Pageflow

/-- Texts by which the browser says that the page or the browser is gone. -/
def closedMarkers : List String :=
  ["has been closed", "target closed", "browser has disconnected", "connection closed"]

def Action.isNavigate : Action → Bool
  | .navigate _ _ => true
  | _ => false

/-- The kind of failure that a fault means for a step. -/
def Action.faultKind (action : Action) (fault : Fault) : FaultKind :=
  match fault.ownKind? with
  | some kind => kind
  | none =>
    match fault with
    | .browserTimeout _ => if action.isNavigate then .navigation else .elementNotFound
    | .browser message =>
      if closedMarkers.any (Text.contains (Text.lower message)) then .staleSession
      else if action.isNavigate then .navigation
      else .internal
    | _ => .internal

/-- The failure of a run whose step `index` raised `fault`. -/
def Step.failure (step : Step) (index : Nat) (fault : Fault) : Failure :=
  { message :=
      "Step " ++ toString (index + 1) ++ " (" ++ step.action.name ++ ") failed: " ++ fault.headline
    phase := step.action.name
    kind := step.action.faultKind fault
    stepIndex := some index
    diagnostic := fault.name }

end Pageflow
