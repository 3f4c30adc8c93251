import Pageflow.Number.Double
/-!
Request activity of a page: the requests under way and the time of the last change.
-/
namespace Pageflow.Network

/-- What a page tells of a request. -/
inductive RequestEvent where
  | started
  | finished
  | failed
deriving DecidableEq

namespace RequestEvent

def name : RequestEvent → String
  | .started => "request"
  | .finished => "requestfinished"
  | .failed => "requestfailed"

def all : List RequestEvent := [.started, .finished, .failed]

end RequestEvent

/-- The activity seen on one page. -/
structure Monitor where
  attached : Bool
  /-- The requests under way, each once. -/
  inflight : List String
  lastActivity : Double
deriving DecidableEq

namespace Monitor

/-- A monitor made at a time. -/
def new (now : Double) : Monitor := ⟨false, [], now⟩

/-- Takes in what a page tells of the request `id`. -/
def note (m : Monitor) (event : RequestEvent) (id : String) (now : Double) : Monitor :=
  match event with
  | .started =>
    { m with
      inflight := if id ∈ m.inflight then m.inflight else m.inflight ++ [id], lastActivity := now }
  | .finished | .failed => { m with inflight := m.inflight.filter (· ≠ id), lastActivity := now }

/-- Whether nothing is under way and nothing has changed for `idleMs` milliseconds. -/
def isIdle (m : Monitor) (now : Double) (idleMs : Int) : Bool :=
  m.inflight.isEmpty && ((now - m.lastActivity) * 1000).atLeast idleMs

end Monitor
end Pageflow.Network
