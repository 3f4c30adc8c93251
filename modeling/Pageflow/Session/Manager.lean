import Pageflow.Activity.Basic
/-!
The browser session: one browser context, launched when it is first needed and shared by all
tasks, each of which gets a page of its own. Launching and closing exclude one another.
-/
namespace Pageflow.Session

open Browser

/-- Changes the state of the session. -/
def change (f : State → State) : Activity Unit :=
  Program.modify fun s => { s with session := f s.session }

/-- Runs an activity while holding the lock. Who comes first is served first. -/
def withLock {α : Type} (p : Activity α) : Activity α := do
  let ticket ← Program.update fun s =>
    let (ticket, session) := s.session.enqueue
    (ticket, { s with session })
  Program.ensure
    (do
      let _ ← (.ask (.await (.turn ticket) none) .ofResult : Activity Bool)
      p)
    (change fun s => s.leave ticket)

/-- Starts the driver unless it runs already, and launches the browser. -/
def start (o : Options) : Activity ContextRef := do
  let s ← Program.state
  if o.driven && !s.session.driverStarted then
    BrowserCall.startDriver.run
    change fun s => { s with driverStarted := true }
  (BrowserCall.launch o.profile o.launchOptions).run

/-- Launches the browser and takes its context in hand. -/
def launch (o : Options) : Activity ContextRef := do
  (.ask (.makeDirectory o.profile) .ofResult : Activity Unit)
  let context ← (start o).rescue fun fault =>
    .fail (.sessionLaunch ("Could not launch browser: " ++ fault.message))
  change fun s => { s with context := some context }
  return context

/-- The context in hand, launched if there is none. -/
def context (o : Options) : Activity ContextRef :=
  withLock do
    let s ← Program.state
    match s.session.context with
    | some context => pure context
    | none => launch o

/-- Opens a page on a context. If the browser refuses, the context is let go of. -/
def newPage (context : ContextRef) : Activity PageRef :=
  (BrowserCall.newPage context).run.rescueIf Fault.fromBrowser fun fault => do
    change State.drop
    .fail (.staleSession ("Browser context is no longer usable: " ++ fault.message))

/-- A fresh page. -/
def acquire (o : Options) : Activity PageRef := do
  let context ← context o
  let page ← newPage context
  page.call (.setTimeout o.timeoutMs)
  page.call (.setNavigationTimeout o.navigationTimeoutMs)
  return page

/-- Closes a page unless it is closed already; this never fails. -/
def release (page : PageRef) : Activity Unit :=
  Program.ignore do
    if !(← page.call .isClosed) then
      page.call .close

/-- Closes the context in hand and stops the driver. -/
def close : Activity Unit :=
  withLock do
    let s ← Program.state
    if let some context := s.session.context then
      (BrowserCall.closeContext context).run.ignore
      change State.drop
    let s ← Program.state
    if s.session.driverStarted then
      BrowserCall.stopDriver.run.ignore
      change fun s => { s with driverStarted := false }

end Pageflow.Session
