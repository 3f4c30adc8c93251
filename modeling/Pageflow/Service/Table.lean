import Pageflow.Workflow.Document
/-!
The table of tasks. A record keeps its place when its task is submitted again; what has ended is
dropped, oldest first, once there are more records than are to be retained.
-/
namespace Pageflow.Service

/-- How far a task has come. -/
inductive TaskStatus where
  | pending
  | running
  | completed
  | failed
deriving DecidableEq

namespace TaskStatus

def name : TaskStatus → String
  | .pending => "pending"
  | .running => "running"
  | .completed => "completed"
  | .failed => "failed"

/-- Whether a task with this status has ended. -/
def isFinal : TaskStatus → Bool
  | .completed | .failed => true
  | .pending | .running => false

end TaskStatus

/-- One task. `serial` tells apart records that were made for the same task. -/
structure TaskRecord where
  serial : Nat
  taskId : String
  workflowId : String
  status : TaskStatus
  inputValue : Json
  metadata : List (String × Json)
  result : Option Execution
  createdAt : Int

/-- The record of a task that has ended; without a result it has failed. -/
def TaskRecord.finish (r : TaskRecord) : Option Execution → TaskRecord
  | some e => { r with result := some e, status := if e.completed then .completed else .failed }
  | none => { r with status := .failed }

/-- The records, oldest task first. -/
structure Table where
  records : List TaskRecord
  nextSerial : Nat

namespace Table

def empty : Table := ⟨[], 0⟩

def get? (t : Table) (taskId : String) : Option TaskRecord := t.records.find? (·.taskId = taskId)

/-- Puts a record into the place of the one of the same task, or at the end. -/
def put (r : TaskRecord) : List TaskRecord → List TaskRecord
  | [] => [r]
  | old :: rest => if old.taskId = r.taskId then r :: rest else old :: put r rest

/-- Enters a pending task. -/
def submit (t : Table) (taskId workflowId : String) (inputValue : Json)
    (metadata : List (String × Json)) (now : Int) : TaskRecord × Table :=
  let r : TaskRecord := ⟨t.nextSerial, taskId, workflowId, .pending, inputValue, metadata, none, now⟩
  (r, ⟨put r t.records, t.nextSerial + 1⟩)

/-- Changes a record, if it is still in the table. -/
def change (t : Table) (serial : Nat) (f : TaskRecord → TaskRecord) : Table :=
  { t with records := t.records.map fun r => if r.serial = serial then f r else r }

/-- Marks a task as running. -/
def begin (t : Table) (serial : Nat) : Table := t.change serial fun r => { r with status := .running }

/-- Notes how a task ended. -/
def finish (t : Table) (serial : Nat) (result : Option Execution) : Table :=
  t.change serial fun r => r.finish result

/-- The tasks that are running. -/
def running (t : Table) : List String :=
  (t.records.filter (·.status = .running)).map (·.taskId)

/-- The tasks to drop so that `limit` records are left: the oldest of those that have ended, but
never `keep`. -/
def surplus (t : Table) (limit : Nat) (keep : String) : List String :=
  ((t.records.filter fun r => r.status.isFinal && r.taskId ≠ keep).map (·.taskId)).take
    (t.records.length - limit)

/-- Without the records of some tasks. -/
def drop (t : Table) (taskIds : List String) : Table :=
  { t with records := t.records.filter fun r => r.taskId ∉ taskIds }

end Table
end Pageflow.Service
