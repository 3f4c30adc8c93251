import Pageflow.Progress.Store
/-!
The event bus: sinks, and the registrations that say which of them receive which task's events.
A sink may be registered more than once.
-/
namespace Pageflow.Progress

/-- A consumer of events, with what it has taken in so far. -/
inductive Sink where
  /-- Keeps all events. -/
  | memory (events : List Event)
  /-- Keeps the latest event of each task. -/
  | latest (store : Store)
  /-- Writes each event as a line of JSON. -/
  | lines (text : String)
  /-- Writes each event into the log. -/
  | log (messages : List String)
  /-- Posts each event to an address. -/
  | webhook (url : String)
  /-- Sends each event to a client until sending fails. -/
  | socket (name : String) (closed : Bool)
  /-- Asks at the terminal to resolve a challenge whenever a task is paused. -/
  | terminal
  /-- Fails at every event. -/
  | failing

/-- The log message of an event. -/
def Event.logMessage (e : Event) : String :=
  "[" ++ (if e.taskId.isEmpty then "?" else e.taskId) ++ "] " ++ e.status.name ++ " " ++
    toString e.stepIndex ++ "/" ++ toString e.totalSteps ++ ": " ++ Text.take 200 e.message

/-- What a sink that only keeps events becomes when it takes one in. -/
def Sink.keep (e : Event) : Sink → Sink
  | .memory events => .memory (events ++ [e])
  | .latest store => .latest (store.record e)
  | .lines text => .lines (text ++ e.line ++ "\n")
  | .log messages => .log (messages ++ [e.logMessage])
  | s => s

/-- Names a sink on a bus. -/
abbrev SinkId := Nat

/-- Sinks in the order they were made, and registrations in the order they were added. A
registration without a task receives the events of all tasks. -/
structure Bus where
  sinks : List Sink
  registrations : List (SinkId × Option String)

namespace Bus

def empty : Bus := ⟨[], []⟩

def sink? (b : Bus) (id : SinkId) : Option Sink := b.sinks[id]?

/-- Makes a sink known without registering it. -/
def attach (b : Bus) (s : Sink) : SinkId × Bus := (b.sinks.length, { b with sinks := b.sinks ++ [s] })

/-- Registers a sink for the events of a task, or of all tasks. -/
def register (b : Bus) (id : SinkId) (scope : Option String) : Bus :=
  { b with registrations := b.registrations ++ [(id, scope)] }

/-- Makes a sink known and registers it. -/
def add (b : Bus) (s : Sink) (scope : Option String) : SinkId × Bus :=
  let (id, b) := b.attach s
  (id, b.register id scope)

/-- Removes every registration of a sink. -/
def remove (b : Bus) (id : SinkId) : Bus :=
  { b with registrations := b.registrations.filter (·.1 ≠ id) }

/-- The number of registrations. -/
def count (b : Bus) : Nat := b.registrations.length

/-- The sinks that receive an event of a task, once for each registration. -/
def audience (b : Bus) (taskId : String) : List SinkId :=
  (b.registrations.filter fun (_, scope) => scope = none || scope = some taskId).map (·.1)

/-- Changes a sink. -/
def modifySink (b : Bus) (id : SinkId) (f : Sink → Sink) : Bus :=
  { b with sinks := b.sinks.modify id f }

/-- The latest event of a task in a sink that keeps these. -/
def latest? (b : Bus) (id : SinkId) (taskId : String) : Option Event :=
  match b.sink? id with
  | some (.latest store) => store.get? taskId
  | _ => none

end Bus
end Pageflow.Progress
