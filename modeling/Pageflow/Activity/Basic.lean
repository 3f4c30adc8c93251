import Pageflow.Activity.Program
import Pageflow.Files.Tree
import Pageflow.Pause.Board
import Pageflow.Progress.Bus
import Pageflow.Service.Table
import Pageflow.Session.State
import Pageflow.Workflow.Registry
/-!
Activities: programs over the state that all tasks share, with the questions that reach outside.
Between two questions an activity runs undisturbed; at a question others may run.
-/
namespace Pageflow

open Browser

/-- The state that all tasks share. -/
structure State where
  board : Pause.Board := .empty
  session : Session.State := .initial
  bus : Progress.Bus := .empty
  /-- The request activity of each page that is watched. -/
  monitors : List (PageRef × Network.Monitor) := []
  tasks : Service.Table := .empty
  registry : Registry := .empty
  /-- Whether somebody is being asked at the terminal to resolve a challenge. -/
  prompting : Bool := false

/-- What an activity can wait for in the shared state. -/
inductive Condition where
  /-- The signal of a pause no longer waits. -/
  | settled (signal : Nat)
  /-- A ticket holds the session's lock. -/
  | turn (ticket : Nat)
deriving DecidableEq

/-- Whether a condition holds. -/
def Condition.holds (s : State) : Condition → Bool
  | .settled n => s.board.signal n ≠ .waiting
  | .turn ticket => s.session.holds ticket

/-- What an activity sends to a client. -/
inductive Frame where
  | accept
  | json (value : Json)
  | text (content : String)
  | close (code : Nat) (reason : String)

/-- What an activity receives from a client. -/
inductive Incoming where
  | text (content : String)
  /-- Nothing came in time. -/
  | nothing
  | disconnected
deriving DecidableEq

/-- Work that goes on beside the activity that started it. -/
inductive Job where
  /-- Asks at the terminal until a task is resumed. -/
  | prompt (taskId : String)
  /-- Serves a client that follows a task; `sink` sends it the task's events. -/
  | follow (client taskId : String) (sink : Progress.SinkId)
deriving DecidableEq

/-- A question to the surroundings. -/
inductive Ask where
  /-- Seconds on a clock that is never set back. -/
  | elapsed
  /-- Seconds since 1970. -/
  | wall
  /-- Microseconds since 1970. -/
  | now
  | freshId
  | sleep (seconds : Double)
  /-- Lets others run. -/
  | pass
  /-- Waits for a condition, for some seconds at most. -/
  | await (condition : Condition) (seconds : Option Double)
  | page (page : PageRef) (call : PageCall)
  | element (element : ElementRef) (call : ElementCall)
  | browser (call : BrowserCall)
  | makeDirectory (path : String)
  /-- The files at and below a path. -/
  | files (path : String)
  /-- Stores an image under a key made from a hint and yields its address. -/
  | upload (picture : Capture.Picture) (hint : String)
  | post (url : String) (body : Json)
  | send (client : String) (frame : Frame)
  | receive (client : String) (seconds : Double)
  | print (line : String)
  | readLine
  | start (job : Job)
  | stop (job : Job)

/-- What is answered to a question: to `await`, whether the condition came to hold in time. An
answer with a fault may be a cancellation. -/
abbrev Ask.Reply : Ask → Type
  | .elapsed | .wall => Double
  | .now => Int
  | .freshId => String
  | .sleep _ | .pass => Result Unit
  | .await _ _ => Result Bool
  | .page _ call => Result call.Answer
  | .element _ call => Result call.Answer
  | .browser call => Result call.Answer
  | .makeDirectory _ => Result Unit
  | .files _ => FileTree (List Nat)
  | .upload _ _ => Result String
  | .post _ _ | .send _ _ => Result Unit
  | .receive _ _ => Result Incoming
  | .print _ => Unit
  | .readLine => Result Unit
  | .start _ | .stop _ => Unit

/-- An activity of the system. -/
abbrev Activity (α : Type) : Type := Program State Ask Ask.Reply α

namespace Activity

def elapsed : Activity Double := .ask .elapsed .done
def wall : Activity Double := .ask .wall .done
def now : Activity Int := .ask .now .done
def freshId : Activity String := .ask .freshId .done
def sleep (seconds : Double) : Activity Unit := .ask (.sleep seconds) .ofResult
def pass : Activity Unit := .ask .pass .ofResult

/-- A number of milliseconds in seconds, rounded once. -/
def seconds (ms : Int) : Double := .nearest (ms / 1000)

/-- Sleeps for some milliseconds; more of them than a number of seconds can hold are refused. -/
def sleepMs (ms : Int) : Activity Unit :=
  match seconds ms with
  | .infinite _ => .fail (.foreign "OverflowError" "integer division result too large for a float")
  | length => sleep length

end Activity

/-- Calls a page. -/
def Browser.PageRef.call (p : PageRef) (c : PageCall) : Activity c.Answer := .ask (.page p c) .ofResult

/-- Calls an element. -/
def Browser.ElementRef.call (e : ElementRef) (c : ElementCall) : Activity c.Answer :=
  .ask (.element e c) .ofResult

/-- Calls the browser. -/
def Browser.BrowserCall.run (c : BrowserCall) : Activity c.Answer := .ask (.browser c) .ofResult

/-- What a job does next: it ends, or goes on as another job. -/
inductive Turn (α : Type) where
  | ended (value : α)
  | again (job : Job)

end Pageflow

namespace Pageflow.Browser

/-- Waits for an element; one that does not come is a fault of its own kind. -/
def PageRef.waitVisible (page : PageRef) (selector : String) (timeoutMs : Int) :
    Activity ElementRef := do
  match ← (page.call (.waitFor selector timeoutMs)).attempt with
  | .ok (some element) => return element
  | .ok none | .error (.browserTimeout _) => .fail (.elementNotFound selector (some timeoutMs))
  | .error fault => .fail fault

end Pageflow.Browser
