import Pageflow.Activity.Basic
/-!
Publishing events. A sink that fails is passed over, and so is a channel that fails: a task never
fails because its progress could not be told.
-/
namespace Pageflow.Progress

/-- What is posted of an event. -/
def Event.notice (e : Event) : Json := .obj [("task_id", e.taskId), ("event", e.toJson)]

/-- Hands an event to a sink. -/
def deliver (e : Event) (id : SinkId) : Activity Unit := do
  let s ← Program.state
  match s.bus.sink? id with
  | some (.webhook url) => .ask (.post url e.notice) .ofResult
  | some (.socket client false) =>
    Program.rescue (.ask (.send client (.text e.line)) .ofResult) fun _ =>
      Program.modify fun s => { s with bus := s.bus.modifySink id fun _ => .socket client true }
  | some (.socket _ true) => pure ()
  | some .terminal =>
    if e.status = .paused && !s.prompting then
      Program.modify fun s => { s with prompting := true }
      .ask (.start (.prompt e.taskId)) .done
  | some .failing => .fail (.general "")
  | some _ => Program.modify fun s => { s with bus := s.bus.modifySink id (Sink.keep e) }
  | none => pure ()

/-- Hands an event to sinks one after the other. -/
def deliverAll (e : Event) : List SinkId → Activity Unit
  | [] => pure ()
  | id :: rest => do
    (deliver e id).ignore
    deliverAll e rest

/-- Publishes an event as one of the task `taskId` to all sinks that want it. -/
def publish (taskId : String) (e : Event) : Activity Unit := do
  let s ← Program.state
  deliverAll { e with taskId } (s.bus.audience taskId)

/-- Where the events of a task go; nowhere if there is no channel. -/
abbrev Channel := Option (String → Event → Activity Unit)

/-- The channel of the event bus. -/
def busChannel : Channel := some publish

/-- The time of an event that happens now. -/
def timestamp : Activity String := do return Calendar.stamp (← Activity.now) "+00:00"

/-- Tells of a task. -/
def announce (channel : Channel) (taskId : String) (status : Status) (stepIndex totalSteps : Int)
    (message : String) : Activity Unit :=
  match channel with
  | none => pure ()
  | some tell => do
    let time ← timestamp
    (tell taskId ⟨taskId, status, stepIndex, totalSteps, message, time⟩).ignore

end Pageflow.Progress
