import Pageflow.Http.Answer
import Pageflow.Rehearsal.Scene.Service
import Pageflow.Socket.Follow
/-!
Scenes with the interface of a service: requests come in and clients follow tasks over sockets
while time passes.
-/
namespace Pageflow.Rehearsal.Scene

open Browser

/-- How the interface comes by its service. -/
inductive Provision where
  /-- It is given one. -/
  | given
  /-- It runs without one. -/
  | absent
  /-- It assembles one, which loads its workflows. -/
  | owned
deriving DecidableEq

def Provision.ofName : String → Provision
  | "none" => .absent
  | "owned" => .owned
  | _ => .given

/-- An interface on its stage. `heard` says how many messages of each client have been reported. -/
structure Front where
  site : Site
  service : Option Service
  heard : List (String × Nat) := []

namespace Front

def stage (f : Front) : Stage := f.site.stage

def withStage (f : Front) (p : Stage) : Front := { f with site := { f.site with stage := p } }

/-- The work of clients that follow tasks. -/
def work (service : Option Service) : Job → Activity (Turn Json)
  | .follow client taskId sink =>
    match service with
    | some s => Socket.turn s client taskId sink Json.null
    | none => noWork (.prompt taskId)
  | job => noWork job

/-- An interface before anything is asked of it. -/
def prepare (input : Json) : Result Front := do
  let site ← openSite input
  let (service, site) : Option Service × Site :=
    match Provision.ofName (input.textAt "mode") with
    | .given => (some site.service, site)
    | .absent => (none, site)
    | .owned => (some site.service, (site.answer (do return .int (← site.service.loadWorkflows))).2)
  pure ⟨{ site with stage := { site.stage with work := work service } }, service, []⟩

/-- The request that a document describes. -/
def request (j : Json) : Http.Request :=
  let headers := (j.getD "headers").textTable.map fun (name, value) => (Text.lower name, value)
  match j.present "json" with
  | some document =>
    let declared : List (String × String) :=
      if (headers.lookup "content-type").isSome then headers
      else headers ++ [("content-type", "application/json")]
    ⟨j.textAt "method" "GET", j.textAt "path", declared, document.write Json.compact⟩
  | none => ⟨j.textAt "method" "GET", j.textAt "path", headers, j.textAt "content"⟩

/-- The body of a response; issues stand alone. -/
def bodyJson (r : Http.Response) : Json :=
  match r.content with
  | .text s => .str s
  | .json j => if r.status = 422 then j.getD "detail" else inMillis j

/-- A response as a document. -/
def responseJson (r : Http.Response) : Json :=
  .obj ([("status", .int r.status), ("body", bodyJson r)] ++
    match r.allowedOrigin with
    | some origin => [("cors", .str origin)]
    | none => [])

/-- The answer to a request. -/
def answer (f : Front) (r : Json) : Activity Json := do
  let origins := f.site.service.settings.api.corsOrigins
  return responseJson (← Http.answer f.service origins (request r))

/-- Takes in a client. -/
def connect (f : Front) (name target : String) : Front :=
  let p := f.stage.modifyWorld fun w =>
    { w with clients := w.clients.filter (·.name ≠ name) ++ [{ name }] }
  let activity : Activity (Turn Json) :=
    match Socket.followedTask? target with
    | some taskId => Socket.connect f.service name taskId Json.null
    | none => do
      Socket.send name (.close 1000 "")
      return .ended .null
  let f := f.withStage (Pool.begin p none activity).2
  { f with heard := f.heard.filter (·.1 ≠ name) ++ [(name, 0)] }

/-- Something happens to a client. -/
def changeClient (f : Front) (name : String) (change : Client → Client) : Front :=
  f.withStage (Pool.afterChange (f.stage.modifyWorld fun w => w.modifyClient name change))

/-- One step with an interface. -/
def act (f : Front) (op : Json) : Fields × Front :=
  match op.textItem 0 with
  | "http" =>
    let (r, p) := f.stage.finish (f.answer (op.item 1))
    (match r with
      | .ok j => j.fields
      | .error fault => fault.fields, f.withStage p)
  | "spawn" =>
    let (fields, site) := f.site.start (op.textItem 1) (f.answer (op.item 2))
    (fields, { f with site })
  | "ws" => ([], f.connect (op.textItem 1) (op.textItem 2))
  | "ws_send" =>
    ([], f.changeClient (op.textItem 1) fun c => { c with inbox := c.inbox ++ [op.textItem 2] })
  | "ws_close" => ([], f.changeClient (op.textItem 1) fun c => { c with gone := true })
  | "ws_break" => ([], f.changeClient (op.textItem 1) fun c => { c with broken := true })
  | "ws_fix" => ([], f.changeClient (op.textItem 1) fun c => { c with broken := false })
  | "advance" => ([], f.withStage (f.stage.pass (op.intItem 1)))
  | _ => ([], f)

/-- A frame as it is reported: a text that is JSON as its value. -/
def frameJson : Frame → Json
  | .accept => .arr ["accept"]
  | .json value => .arr ["json", value]
  | .text content =>
    match Json.read content.toList with
    | .ok value => .arr ["json", value]
    | .error _ => .arr ["text", .str content]
  | .close code reason => .arr ["close", .int code, .str reason]

/-- What clients have been sent since the last report. -/
def news (f : Front) : Json × Front :=
  let sent (name : String) : List Frame :=
    ((f.stage.world.client? name).map (·.sent)).getD []
  (.obj (f.heard.map fun (name, n) => (name, .arr (((sent name).drop n).map frameJson))),
    { f with heard := f.heard.map fun (name, _) => (name, (sent name).length) })

end Front

/-- The interface of a service. -/
def requests (input : Json) : Result Fields := do
  let (steps, _) := inOrder (fun (f : Front) op =>
    let (fields, f) := f.act op
    let (ended, site) := f.site.settled
    let (news, f) := Front.news { f with site }
    (fields ++ [("ended", ended), ("ws", news),
      ("sinks", .int f.stage.shared.state.bus.count)], f)) (← Front.prepare input) (input.itemsAt "ops")
  pure (withoutRoot "root" [("steps", .arr steps)])

end Pageflow.Rehearsal.Scene
