import Pageflow.Http.Message
import Pageflow.Json.Value
import Pageflow.Json.Reader
import Pageflow.Service.Basic
/-!
Clients that follow a task over a socket. A client is sent the latest event and then every further
one; it may ask for a resume, and is kept awake when it is silent.
-/
namespace Pageflow.Socket

/-- How long a silent client is waited for, in seconds. -/
def patienceSec : Double := 30

/-- Sends something to a client. -/
def send (client : String) (frame : Frame) : Activity Unit := .ask (.send client frame) .ofResult

def sendJson (client : String) (fields : List (String × Json)) : Activity Unit :=
  send client (.json (.obj fields))

/-- The task that a target lets a client follow. -/
def followedTask? (target : String) : Option String :=
  match (Text.split '/' (Http.pathOf target)).drop 1 with
  | ["ws", "progress", taskId] => if taskId.isEmpty then none else some taskId
  | _ => none

/-- Whether anything is known of a task. -/
def isKnown (s : Service) (state : State) (taskId : String) : Bool :=
  (state.tasks.get? taskId).isSome || (s.latest? state taskId).isSome

/-- Sends the latest event of a task to a client and begins to send it the further ones. -/
def follow (s : Service) (client taskId : String) : Activity Job := do
  let latest := s.latest? (← Program.state) taskId
  sendJson client [("type", "snapshot"), ("data", Json.ofOption Progress.Event.toJson latest)]
  let sink ← Program.update fun s =>
    let (sink, bus) := s.bus.add (.socket client false) (some taskId)
    (sink, { s with bus })
  return .follow client taskId sink

/-- Takes in a client that wants to follow a task. -/
def connect {α : Type} (service : Option Service) (client taskId : String) (done : α) :
    Activity (Turn α) := do
  send client .accept
  let state ← Program.state
  match service with
  | some s =>
    if isKnown s state taskId then return .again (← follow s client taskId)
  | none => pure ()
  sendJson client [("error", "task_not_found"), ("task_id", taskId)]
  send client (.close 4004 "Task not found")
  return .ended done

/-- How much of a message is repeated to a client that sent it. -/
def echoLength : Nat := 200

/-- Answers a message of a client. -/
def respond (s : Service) (client taskId message : String) : Activity Unit :=
  if message = "ping" then send client (.text "pong")
  else
    match Json.read message.toList with
    | .error f =>
      match f.flaw with
      | .digitLimit _ => .fail (.foreign "ValueError" f.flaw.text)
      | .depth _ => .fail (.foreign "RecursionError" f.flaw.text)
      | _ => sendJson client
        [("error", "invalid_message"), ("detail", .str (f.message message.toList))]
    | .ok j =>
      if j.textAt? "action" = some "resume" then do
        let refusal ← s.resume taskId
        sendJson client [("type", "resume_ack"), ("task_id", taskId),
          ("accepted", .bool refusal.isNone), ("reason", .str ((refusal.map (·.name)).getD ""))]
      else
        sendJson client [("error", "unknown_action"), ("detail", .str (Text.take echoLength j.display))]

/-- Whether a sink still sends to its client. -/
def isOpen (state : State) (sink : Progress.SinkId) : Bool :=
  match state.bus.sink? sink with
  | some (.socket _ closed) => !closed
  | _ => false

/-- Waits for one message of a client and answers it; tells whether the client may send more. -/
def exchange (s : Service) (client taskId : String) (sink : Progress.SinkId) : Activity Bool := do
  if !isOpen (← Program.state) sink then return false
  match ← (.ask (.receive client patienceSec) .ofResult : Activity Incoming) with
  | .disconnected => return false
  | .nothing =>
    Program.rescue (do
        sendJson client [("type", "keepalive")]
        return true)
      fun _ => pure false
  | .text message => do
    respond s client taskId message
    return true

/-- One turn with a client. In the end its sink is removed. -/
def turn {α : Type} (s : Service) (client taskId : String) (sink : Progress.SinkId) (done : α) :
    Activity (Turn α) := do
  let result ← (exchange s client taskId sink).attempt
  match result with
  | .ok true => return .again (.follow client taskId sink)
  | _ =>
    Program.modify fun s => { s with bus := s.bus.remove sink }
    let _ ← Program.ofResult result
    return .ended done

end Pageflow.Socket
