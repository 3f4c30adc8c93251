import Pageflow.Rehearsal.Scene.Basic
import Pageflow.Session.Manager
/-!
Scenes with a browser session: acquiring and releasing pages while contexts come and go.
-/
namespace Pageflow.Rehearsal.Scene

open Browser Pageflow.Session

/-- The options of the session that a document describes. -/
def sessionOptions (input : Json) : Result Options := do
  let profile := (rootPath.child "profile").toString
  let o := input.getD "options"
  let driven := input.truthAt "via_playwright"
  match input.get? "from_settings" with
  | some given =>
    let browser := Json.setKey "profile_dir" (.str profile) given.fields
    let s ← Settings.load (fun _ => []) [] [("browser", .obj browser), ("project_root", .str "/proj")]
    pure { Options.ofSettings s.browser ((o.get? "headless").bind Json.bool?) with driven }
  | none =>
    let plain : Options := { profile }
    let viewport := (o.itemsAt "viewport").filterMap Json.int?
    pure { plain with
      driven, headless := ((o.get? "headless").map Json.truthy).getD plain.headless
      executable := o.textAt "executable_path", channel := o.textAt "channel"
      width := viewport[0]?.getD plain.width, height := viewport[1]?.getD plain.height
      arguments := (o.getD "launch_args").texts
      timeoutMs := o.intAt "default_timeout_ms" plain.timeoutMs
      navigationTimeoutMs := o.intAt "navigation_timeout_ms" plain.navigationTimeoutMs }

/-- The world with the browser that a document describes. -/
def browserWorld (input : Json) (pages : List Json) : World :=
  { bareWorld with
    scripts := pages.map .ofJson, launchMs := input.intAt "launch_ms"
    faults := faultsOfJson (input.getD "faults") }

def acquirePage (o : Options) : Activity Json := do
  let page ← acquire o
  return .int page.number

/-- Runs activities side by side until all of them have ended. -/
def finishAll (p : Stage) (activities : List (Activity Json)) : List (Result Json) × Stage :=
  let (ids, p) := activities.foldl (fun (ids, p) a =>
    let (id, p) := p.begin none (Turn.ended <$> a)
    (ids ++ [id], p)) (([] : List Nat), p)
  let p := ids.foldl (fun p id => p.runJob id) p
  (ids.map fun id => (p.result? id).getD (.error .cancelled), p)

def observe (p : Stage) (name : String) : Stage :=
  p.changeState fun s => { s with session := s.session.observe name }

def observeFailing (p : Stage) (name : String) : Stage :=
  p.changeState fun s => { s with session := s.session.observeFailing name }

/-- A context is gone, whoever closed it. -/
def vanish (p : Stage) (context : Nat) : Stage := { p with shared := contextCloses ⟨context⟩ p.shared }

/-- One step with a session. -/
def sessionAct (o : Options) (p : Stage) (op : Json) : Fields × Stage :=
  match op.textItem 0 with
  | "acquire" =>
    let (r, p) := p.finish (acquirePage o)
    (r.fieldsAs "page", p)
  | "acquire_many" =>
    let (rs, p) := finishAll p (List.replicate (op.intItem 1).toNat (acquirePage o))
    let report : Result Json → Json
      | .ok j => j
      | .error f => f.toJson
    ([("pages", .arr (rs.map report))], p)
  | "release" =>
    match (op.item 1).nat? with
    | some n => p.finishUnit (release ⟨n⟩)
    | none => ([], p)
  | "observer" => ([], observe p (op.textItem 1))
  | "bad_observer" => ([], observeFailing p "bad")
  | "vanish" => ([], vanish p (op.intItem 1).toNat)
  | "close" => p.finishUnit close
  | _ => ([], p)

/-- A browser session. -/
def session (input : Json) : Result Fields := do
  let o ← sessionOptions input
  let (steps, p) := inOrder (fun (p : Stage) op =>
    let seen := p.world.log.length
    let (fields, p) := sessionAct o p op
    let p := Stage.settled p
    let s := p.shared.state.session
    (fields ++ [("live", .bool s.isLive), ("notes", .arr (s.told.map .str)),
      ("closed", .arr (p.pageRefs.map fun page => .bool (p.world.isClosed page))),
      ("log", .arr (p.world.log.drop seen))], p))
    (stageIn (browserWorld input (input.itemsAt "pages"))) (input.itemsAt "ops")
  pure (withoutRoot "root" [("steps", .arr steps), ("page_calls", .arr (p.pageRefs.map p.calls))])

end Pageflow.Rehearsal.Scene
