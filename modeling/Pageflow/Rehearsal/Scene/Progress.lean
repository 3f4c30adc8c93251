import Pageflow.Progress.Publish
import Pageflow.Rehearsal.Scene.Basic
/-!
Scenes with an event bus: sinks come and go while events are published.
-/
namespace Pageflow.Rehearsal.Scene

open Pageflow.Progress

/-- Where the posts of a webhook go: its label keeps apart the webhooks of one address. -/
def hookAddress (label url : String) : String := label ++ "\n" ++ url

/-- A sink of a kind. -/
def newSink (label kind : String) (argument : Json) : Sink :=
  match kind with
  | "memory" => .memory []
  | "store" => .latest (.empty (argument.int?.getD 1000))
  | "jsonl" => .lines ""
  | "logging" => .log []
  | "webhook" => .webhook (hookAddress label (argument.textAt "url"))
  | _ => .failing

/-- What a sink has taken in. -/
def sinkView (p : Stage) (label : String) (id : SinkId) : Option Json :=
  match p.shared.state.bus.sink? id with
  | some (.memory events) => some (.arr (events.map eventRow))
  | some (.latest store) =>
    some (.arr (store.entries.map fun (task, e) =>
      .arr [.str task, .arr ((eventRow e).items.drop 1)]))
  | some (.lines text) => some (.str text)
  | some (.log messages) => some (.arr (messages.map .str))
  | some (.webhook address) =>
    let url := String.ofList (address.toList.drop (label.length + 1))
    let posts := p.world.posts.filter (·.1 = address)
    some (.arr (posts.map fun (_, body) => .arr [.str "POST", .str url, body]))
  | _ => none

def changeBus (p : Stage) (f : Bus → Bus) : Stage := p.changeState fun s => { s with bus := f s.bus }

/-- Forgets a task in a sink that keeps latest events. -/
def forgetIn (taskId : String) : Sink → Sink
  | .latest store => .latest (store.forget taskId)
  | s => s

/-- The channel of a name: the bus, none, or one that fails. -/
def channelOf (name : String) : Channel :=
  match name with
  | "bus" => busChannel
  | "none" => none
  | _ => some fun _ _ => .fail (.general "")

/-- Tells of a task in a status by its name. -/
def announceAct (p : Stage) (op : Json) : Fields × Stage :=
  match Status.ofName? (op.textItem 3) with
  | none =>
    ((Fault.foreign "ValueError"
      ((op.item 3).literal ++ " is not a valid ProgressStatus")).fields, p)
  | some status =>
    let o := op.item 4
    p.finishUnit (announce (channelOf (op.textItem 1)) (op.textItem 2) status (o.intAt "step_index")
      (o.intAt "total_steps") (o.textAt "message"))

/-- Publishes an event that a document describes. -/
def publishAct (p : Stage) (op : Json) : Fields × Stage :=
  match (Event.decode (Calendar.stamp p.world.micros "+00:00") (op.item 2)).toResult with
  | .error f => (f.fields, p)
  | .ok e => p.finishUnit (publish (op.textItem 1) e)

/-- One step with a bus. -/
def progressAct (p : Stage) (labels : List (String × SinkId)) (op : Json) :
    Fields × List (String × SinkId) × Stage :=
  let label := op.textItem 1
  let sink := (labels.lookup label).getD 0
  let same (r : Fields × Stage) : Fields × List (String × SinkId) × Stage := (r.1, labels, r.2)
  match op.textItem 0 with
  | "add" =>
    let (id, bus) := p.shared.state.bus.attach (newSink label (op.textItem 2) (op.item 4))
    ([], labels.filter (·.1 ≠ label) ++ [(label, id)],
      changeBus p fun _ => bus.register id (op.item 3).str?)
  | "add_again" => ([], labels, changeBus p fun b => b.register sink (op.item 2).str?)
  | "remove" => ([], labels, changeBus p fun b => b.remove sink)
  | "publish" => same (publishAct p op)
  | "progress" => same (announceAct p op)
  | "advance" => ([], labels, p.pass (op.intItem 1))
  | "get" =>
    let latest := p.shared.state.bus.latest? sink (op.textItem 2)
    ([("result", Json.ofOption eventRow latest)], labels, p)
  | "forget" => ([], labels, changeBus p fun b => b.modifySink sink (forgetIn (op.textItem 2)))
  | "clear" => ([], labels, changeBus p fun b => b.modifySink sink fun _ => .memory [])
  | "count" => ([("result", .int (p.eventsKept sink).length)], labels, p)
  | "statuses" =>
    let events := (p.eventsKept sink).filter fun e =>
      ((op.item 2).str?.map fun task => decide (e.taskId = task)).getD true
    ([("result", .arr (events.map fun e => .str e.status.name))], labels, p)
  | _ => ([], labels, p)

/-- An event bus. -/
def progress (input : Json) : Result Fields :=
  let (steps, _) := inOrder (fun ((p, labels) : Stage × List (String × SinkId)) op =>
    let (fields, labels, p) := progressAct p labels op
    let views := labels.filterMap fun (label, id) => (sinkView p label id).map (label, ·)
    (fields ++ [("sinks", .int p.shared.state.bus.count), ("views", .obj views)], p, labels))
    (stageIn bareWorld, []) (input.itemsAt "ops")
  .ok [("steps", .arr steps)]

end Pageflow.Rehearsal.Scene
