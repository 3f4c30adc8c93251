import Pageflow.Json.Writer
import Pageflow.Schema.Checked
import Pageflow.Schema.Scalar
/-!
Progress events: what is told of a task while it runs, their form as documents and lines, and the
latest event of every task.
-/
namespace Pageflow.Progress

/-- The status that an event carries. -/
inductive Status where
  | running
  | paused
  | completed
  | failed
deriving DecidableEq

namespace Status

def name : Status → String
  | .running => "running"
  | .paused => "paused"
  | .completed => "completed"
  | .failed => "failed"

def all : List Status := [.running, .paused, .completed, .failed]

def ofName? (s : String) : Option Status := all.find? (·.name = s)

/-- Whether a task with this status has ended. -/
def isFinal : Status → Bool
  | .completed | .failed => true
  | .running | .paused => false

end Status

/-- One event of a task. -/
structure Event where
  taskId : String
  status : Status
  stepIndex : Int
  totalSteps : Int
  message : String
  timestamp : String
deriving DecidableEq

namespace Event

def toJson (e : Event) : Json :=
  .obj [("task_id", e.taskId), ("status", e.status.name), ("current_step_index", .int e.stepIndex),
    ("total_steps", .int e.totalSteps), ("message", e.message), ("timestamp", e.timestamp)]

/-- The event as one line of JSON. -/
def line (e : Event) : String := e.toJson.write Json.compact

open Schema

/-- One of the statuses by its name. -/
def decodeStatus (j : Json) : Checked Status :=
  match j.str?.bind Status.ofName? with
  | some status => .valid status
  | none => .fail (.choice (Status.all.map Status.name))

/-- Reads an event; `now` is its time if it names none. -/
def decode (now : String) : Json → Checked Event
  | .obj fields =>
    Event.mk <$> required fields "task_id" "task_id" text
      <*> required fields "status" "status" decodeStatus
      <*> optional fields "current_step_index" "current_step_index" 0 int
      <*> optional fields "total_steps" "total_steps" 0 int
      <*> optional fields "message" "message" "" text
      <*> optional fields "timestamp" "timestamp" now text
  | _ => .fail (.modelType "ProgressEvent")

end Event
end Pageflow.Progress

/-! ## Latest events

They are kept in the order of the last updates. A store is bounded: what ended longest ago is dropped
first, and a task that has not ended is kept. -/
namespace Pageflow.Progress

/-- The latest event of each task, under the task's id. -/
structure Store where
  capacity : Int
  entries : List (String × Event)
deriving DecidableEq

namespace Store

/-- A store that tries to keep at most `capacity` tasks. -/
def empty (capacity : Int) : Store := ⟨capacity, []⟩

def get? (s : Store) (taskId : String) : Option Event := s.entries.lookup taskId

/-- Without the entry of a task. -/
def forget (s : Store) (taskId : String) : Store :=
  { s with entries := s.entries.filter (·.1 ≠ taskId) }

/-- Without the first `n` entries that have ended. -/
def dropFinal : Nat → List (String × Event) → List (String × Event)
  | 0, entries => entries
  | _, [] => []
  | n + 1, (taskId, e) :: rest =>
    if e.status.isFinal then dropFinal n rest else (taskId, e) :: dropFinal (n + 1) rest

/-- How many entries are too many. -/
def excess (s : Store) : Nat := ((s.entries.length : Int) - s.capacity).toNat

/-- Drops entries that have ended, as many as there are too many, the least recently updated
first. -/
def evict (s : Store) : Store := { s with entries := dropFinal s.excess s.entries }

/-- Replaces the event of the event's task. -/
def record (s : Store) (e : Event) : Store :=
  let kept := s.forget e.taskId
  evict { kept with entries := kept.entries ++ [(e.taskId, e)] }

end Store
end Pageflow.Progress
