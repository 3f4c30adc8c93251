import Pageflow.Json.Value
import Pageflow.Placeholder
import Pageflow.Workflow.Basic
/-!
Resolving a workflow for one task: every text of every step has its placeholders replaced.
-/
namespace Pageflow

/-- Adds a key to a table that does not have it yet. -/
def addMissing (key value : String) (values : List (String × String)) : List (String × String) :=
  if (values.lookup key).isSome then values else values ++ [(key, value)]

/-- The values that placeholders stand for: the parameters first, then the task id and, if there is
one, the correlation id, each under two names. -/
def TaskContext.values (c : TaskContext) : List (String × String) :=
  let own := addMissing "task_id" c.taskId (addMissing "taskId" c.taskId c.parameters)
  if c.correlationId.isEmpty then own
  else addMissing "correlation_id" c.correlationId (addMissing "correlationId" c.correlationId own)

/-- A source with `f` applied to its texts. -/
def Source.mapText (f : String → String) (s : Source) : Source := ⟨f s.name, f s.selector⟩

/-- An action with `f` applied to its texts. -/
def Action.mapText (f : String → String) : Action → Action
  | .navigate url ready => .navigate (f url) (f ready)
  | .wait ms => .wait ms
  | .waitForSelector selector => .waitForSelector (f selector)
  | .click selector => .click (f selector)
  | .screenshot selector stitched saveAs => .screenshot (f selector) stitched (f saveAs)
  | .scrollPage selector => .scrollPage (f selector)
  | .waitForNetworkIdle idle timeout h => .waitForNetworkIdle idle timeout h
  | .extractData selector dataName => .extractData (f selector) (f dataName)
  | .compositeExtract template sources dataName =>
    .compositeExtract (f template) (sources.map (Source.mapText f)) (f dataName)

/-- A step with `f` applied to its texts. -/
def Step.mapText (f : String → String) (s : Step) : Step :=
  ⟨f s.description, s.action.mapText f⟩

/-- The steps of a workflow with their placeholders resolved for one task. -/
def Workflow.resolve (w : Workflow) (c : TaskContext) : List Step :=
  w.steps.map (Step.mapText (Placeholder.substitute · c.values))

end Pageflow
