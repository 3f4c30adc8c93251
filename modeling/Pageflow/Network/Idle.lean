import Pageflow.Activity.Basic
/-!
Waiting until the network of a page is quiet: the page's request events are followed by a monitor,
which is looked at in regular intervals.
-/
namespace Pageflow

open Browser

/-- The monitor of a page. -/
def State.monitor (s : State) (page : PageRef) : Network.Monitor :=
  (s.monitors.lookup page).getD (.new 0)

/-- Sets the monitor of a page. -/
def State.setMonitor (s : State) (page : PageRef) (m : Network.Monitor) : State :=
  { s with monitors := (page, m) :: s.monitors.filter (·.1 ≠ page) }

/-- Takes in what a page tells of the request `id`. -/
def State.noteRequest (s : State) (page : PageRef) (event : Network.RequestEvent) (id : String)
    (now : Double) : State :=
  s.setMonitor page ((s.monitor page).note event id now)

namespace Network

/-- Makes a monitor for a page. -/
def watch (page : PageRef) : Activity Unit := do
  let now ← Activity.elapsed
  Program.modify fun s => s.setMonitor page (.new now)

/-- Registers for some events of a page. -/
def listenAll (page : PageRef) : List RequestEvent → Activity Unit
  | [] => pure ()
  | event :: rest => do
    page.call (.listen event)
    listenAll page rest

/-- Begins to follow the requests of a page. -/
def attach (page : PageRef) : Activity Unit := do
  let s ← Program.state
  if !(s.monitor page).attached then
    listenAll page RequestEvent.all
    let now ← Activity.elapsed
    Program.modify fun s =>
      s.setMonitor page { s.monitor page with attached := true, lastActivity := now }

/-- Withdraws from some events of a page; what the page refuses is left. -/
def unlistenAll (page : PageRef) : List RequestEvent → Activity Unit
  | [] => pure ()
  | event :: rest => do
    (page.call (.unlisten event)).ignore
    unlistenAll page rest

/-- Stops following the requests of a page. -/
def detach (page : PageRef) : Activity Unit := do
  let s ← Program.state
  if (s.monitor page).attached then
    unlistenAll page RequestEvent.all
    Program.modify fun s => s.setMonitor page { s.monitor page with attached := false, inflight := [] }

/-- The interval at which a monitor is looked at. -/
def defaultPollMs : Nat := 50

/-- A quiet window that is waited for: its length, and how long and how often to look. -/
structure Quiet where
  idleMs : Int
  timeoutMs : Int
  pollMs : Nat := defaultPollMs

/-- How often to look at most: once more than there are intervals in the time allowed, and a few
times more for a clock that rounds. -/
def Quiet.polls (q : Quiet) : Nat := q.timeoutMs.toNat / q.pollMs + 4

/-- Looks until the window has passed, at most `polls` times and not after the deadline. -/
def poll (page : PageRef) (q : Quiet) (deadline : Double) : (polls : Nat) → Activity Unit
  | 0 => .fail (.networkIdle q.idleMs q.timeoutMs)
  | polls + 1 => do
    let now ← Activity.elapsed
    let s ← Program.state
    if (s.monitor page).isIdle now q.idleMs then return
    if deadline.le now then
      .fail (.networkIdle q.idleMs q.timeoutMs)
    else
      Activity.sleep (Activity.seconds q.pollMs)
      poll page q deadline polls

/-- Waits until no request has been under way for the length of the window. -/
def waitForIdle (page : PageRef) (q : Quiet) : Activity Unit := do
  let start ← Activity.elapsed
  poll page q (start + Activity.seconds q.timeoutMs) q.polls

end Network
end Pageflow
