import Pageflow.Workflow.Basic
/-!
The registry: workflows by id, in the order in which their ids were first registered.
-/
namespace Pageflow

/-- Registered workflows; no id occurs twice. -/
structure Registry where
  workflows : List Workflow

namespace Registry

def empty : Registry := ⟨[]⟩

instance : Inhabited Registry := ⟨empty⟩

/-- Replaces the workflow with the same id in its place, or adds `w` at the end. -/
def put (w : Workflow) : List Workflow → List Workflow
  | [] => [w]
  | v :: rest => if v.id = w.id then w :: rest else v :: put w rest

def register (r : Registry) (w : Workflow) : Registry := ⟨put w r.workflows⟩

def registerAll (r : Registry) (ws : List Workflow) : Registry := ws.foldl register r

def get? (r : Registry) (id : String) : Option Workflow := r.workflows.find? (·.id = id)

def remove (r : Registry) (id : String) : Registry := ⟨r.workflows.filter (·.id ≠ id)⟩

def count (r : Registry) : Nat := r.workflows.length

/-- The enabled workflow with an id. -/
def require (r : Registry) (id : String) : Result Workflow :=
  match r.get? id with
  | none => .error (.workflowNotFound id)
  | some w => if w.enabled then .ok w else .error (.workflowDisabled id)

end Registry
end Pageflow
