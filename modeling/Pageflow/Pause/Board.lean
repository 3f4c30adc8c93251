import Pageflow.Browser.Call
/-!
The board of paused tasks. A pause has a signal of its own; it waits until it is given or
withdrawn, and neither is ever undone.
-/
namespace Pageflow.Pause

/-- How far the signal of a pause has come. -/
inductive Signal where
  | waiting
  /-- A request to resume was accepted. -/
  | given
  /-- The pause was cancelled or has timed out. -/
  | withdrawn
deriving DecidableEq

/-- A pause of a task: `signal` is the number of its signal. -/
structure Handle where
  taskId : String
  page : Option Browser.PageRef
  signal : Nat
  stepIndex : Int
  totalSteps : Int
deriving DecidableEq

/-- The pauses that are on, in the order they began, and all signals there have been. -/
structure Board where
  handles : List Handle
  signals : List Signal
deriving DecidableEq

namespace Board

def empty : Board := ⟨[], []⟩

def handle? (b : Board) (taskId : String) : Option Handle := b.handles.find? (·.taskId = taskId)

def isPaused (b : Board) (taskId : String) : Bool := (b.handle? taskId).isSome

/-- The paused tasks. -/
def tasks (b : Board) : List String := b.handles.map (·.taskId)

/-- The state of a signal; one that there has not been counts as withdrawn. -/
def signal (b : Board) (n : Nat) : Signal := (b.signals[n]?).getD .withdrawn

/-- Sets a signal if it still waits. -/
def settle (b : Board) (n : Nat) (s : Signal) : Board :=
  { b with signals := b.signals.modify n fun old => if old = .waiting then s else old }

/-- Begins a pause; a task that is paused already is not paused again. -/
def begin? (b : Board) (taskId : String) (page : Option Browser.PageRef)
    (stepIndex totalSteps : Int) : Option (Handle × Board) :=
  if b.isPaused taskId then none
  else
    let h : Handle := ⟨taskId, page, b.signals.length, stepIndex, totalSteps⟩
    some (h, ⟨b.handles ++ [h], b.signals ++ [.waiting]⟩)

/-- The pause of a task that can still be resumed. -/
def resumable? (b : Board) (taskId : String) : Option Handle :=
  (b.handle? taskId).filter fun h => b.signal h.signal = .waiting

/-- Takes a pause off the board, if it is still there. -/
def remove (b : Board) (h : Handle) : Board :=
  { b with handles := b.handles.filter (·.signal ≠ h.signal) }

/-- Gives the signal of a pause that is still on and waits. -/
def accept? (b : Board) (h : Handle) : Option Board :=
  if b.resumable? h.taskId = some h then some ((b.settle h.signal .given).remove h) else none

/-- Withdraws the signal of a task's pause and takes the pause off the board. -/
def cancel (b : Board) (taskId : String) : Bool × Board :=
  match b.handle? taskId with
  | some h => (true, (b.settle h.signal .withdrawn).remove h)
  | none => (false, b)

end Board
end Pageflow.Pause
