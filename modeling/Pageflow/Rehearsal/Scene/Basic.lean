import Pageflow.Rehearsal.Script
import Pageflow.Rehearsal.Pool
/-!
Scenes: rehearsals that are described by documents and answered by documents. This module holds
what all scenes share.
-/
namespace Pageflow.Rehearsal

open Browser

abbrev Fields := List (String × Json)

/-- A pool whose jobs end with documents. -/
abbrev Stage := Pool Json

/-- No work is begun by activities. -/
def noWork (_ : Job) : Activity (Turn Json) := pure (.ended .null)

/-- The directory that scenes work in. -/
def rootPath : Path := Path.ofString "/pageflow~root"

/-- The world in which scenes begin: an empty directory. -/
def bareWorld : World :=
  { files := (FileTree.empty.makeDirectory rootPath).toOption.getD .empty }

/-- A stage in some world. -/
def stageIn (world : World) (work : Job → Activity (Turn Json) := noWork) : Stage :=
  ({ shared := ⟨{}, world⟩, work } : Stage).schedulePages

/-- A stage with one open page. -/
def stageWithPage (script : Json) (world : World := bareWorld) : PageRef × Stage :=
  let (page, world) := world.openPage (.ofJson script)
  (page, stageIn world)

mutual
/-- Replaces the name of a root directory in all texts of a document. -/
def hideRoot (root token : String) : Json → Json
  | .str s => .str (Text.replace s root token)
  | .arr items => .arr (hideRootItems root token items)
  | .obj fields => .obj (hideRootFields root token fields)
  | j => j

def hideRootItems (root token : String) : List Json → List Json
  | [] => []
  | j :: rest => hideRoot root token j :: hideRootItems root token rest

def hideRootFields (root token : String) : List (String × Json) → List (String × Json)
  | [] => []
  | (key, j) :: rest =>
    (Text.replace key root token, hideRoot root token j) :: hideRootFields root token rest
end

/-- Fields in which the directory of the scene stands as `token`. -/
def withoutRoot (token : String) (fields : Fields) : Fields :=
  hideRootFields rootPath.toString ("\x7b" ++ token ++ "\x7d") fields

mutual
/-- Durations in whole milliseconds. -/
def inMillis : Json → Json
  | .arr items => .arr (inMillisItems items)
  | .obj fields => .obj (inMillisFields fields)
  | j => j

def inMillisItems : List Json → List Json
  | [] => []
  | j :: rest => inMillis j :: inMillisItems rest

def inMillisFields : List (String × Json) → List (String × Json)
  | [] => []
  | (key, j) :: rest =>
    let field := match key, j.double? with
      | "duration_sec", some x => ("duration_ms", .int (((x * 1000).roundHalfEven?).getD 0))
      | "uptime_sec", some x => ("uptime_ms", .int (((x * 1000).roundHalfEven?).getD 0))
      | _, _ => (key, inMillis j)
    field :: inMillisFields rest
end

/-- The result of a run, with its duration in milliseconds. -/
def executionJson (e : Execution) : Json := inMillis e.toJson

/-- Colour numbers grouped into runs of consecutive ones. -/
def consecutiveRuns : List Nat → List (Nat × Nat)
  | [] => []
  | n :: rest =>
    match consecutiveRuns rest with
    | (m, k) :: more => if n + 1 = m then (n, k + 1) :: more else (n, 1) :: (m, k) :: more
    | [] => [(n, 1)]

/-- The number of the colour of a row. -/
def colourNumber (row : List Capture.Pixel) : Nat :=
  match row.head? with
  | some p => p.red + 256 * p.green
  | none => 0

def pictureJson : Capture.Picture → Json
  | .raw text => .obj [("text", text)]
  | .image i =>
    let runs := (consecutiveRuns (i.rows.map colourNumber)).map fun (first, n) =>
      Json.arr [.int first, .int n]
    .obj [("width", .int i.width), ("height", .int i.height), ("rows", .arr runs)]

/-- An event as a row. -/
def eventRow (e : Progress.Event) : Json :=
  .arr [.str e.taskId, .str e.status.name, .int e.stepIndex, .int e.totalSteps, .str e.message,
    .str e.timestamp]

namespace Stage

def livePage (p : Stage) (page : PageRef) : LivePage := (p.world.page? page).getD (.opened {})

/-- What was asked of a page. -/
def calls (p : Stage) (page : PageRef) : Json := .arr (p.livePage page).calls

def pageRefs (p : Stage) : List PageRef := (List.range p.world.pages.length).map PageRef.mk

def millis (p : Stage) : Json := .int p.world.millis

/-- Lets some milliseconds pass. -/
def pass (p : Stage) (ms : Int) : Stage := p.runUntil (p.world.micros + ms * 1000)

/-- Lets everything happen that needs no time. -/
def settled (p : Stage) : Stage := Pool.settle p

/-- Runs an activity to its end; one that never ends counts as cancelled. -/
def finish (p : Stage) (activity : Activity Json) : Result Json × Stage :=
  let (r, p) := p.complete activity
  (r.getD (.error .cancelled), p)

/-- Runs an activity to its end; yields only the fields of its fault. -/
def finishUnit (p : Stage) (activity : Activity Unit) : Fields × Stage :=
  let (r, p) := p.finish (do
    activity
    return .null)
  (match r with
    | .ok _ => []
    | .error f => f.fields, p)

/-- Does something that takes no time; `default` stands for a failure. -/
def now {α : Type} (p : Stage) (default : α) (activity : Activity α) : α × Stage :=
  let (r, p) := p.immediately activity
  (((r.bind Except.toOption)).getD default, p)

/-- Changes the state that the activities share. -/
def changeState (p : Stage) (f : State → State) : Stage := (p.now () (Program.modify f)).2

/-- Adds a sink that keeps all events. -/
def addMemory (p : Stage) : Progress.SinkId × Stage :=
  p.now 0 (Program.update fun s =>
    let (id, bus) := s.bus.add (.memory []) none
    (id, { s with bus }))

/-- The events that a sink has kept. -/
def eventsKept (p : Stage) (id : Progress.SinkId) : List Progress.Event :=
  match p.shared.state.bus.sink? id with
  | some (.memory events) => events
  | _ => []

/-- Begins an activity as a job under a name. -/
def beginNamed (p : Stage) (jobs : List (String × Nat)) (name : String) (a : Activity Json) :
    List (String × Nat) × Stage :=
  let (id, p) := p.begin none (Turn.ended <$> a)
  (jobs ++ [(name, id)], p)

/-- The results of the jobs that have ended, and the others. -/
def ended (p : Stage) (jobs : List (String × Nat)) : Fields × List (String × Nat) :=
  jobs.foldl (fun (done, left) (name, id) =>
    match p.result? id with
    | some r => (done ++ [(name, .obj (r.fieldsAs "result"))], left)
    | none => (done, left ++ [(name, id)])) (([] : Fields), ([] : List (String × Nat)))

end Stage

/-- Carries out the steps of a scene one after the other; yields the report of each step. -/
def inOrder {σ : Type} (step : σ → Json → Fields × σ) (s : σ) : List Json → List Json × σ
  | [] => ([], s)
  | op :: rest =>
    let (fields, s) := step s op
    let (reports, s) := inOrder step s rest
    (.obj fields :: reports, s)

end Pageflow.Rehearsal
