import Pageflow.Challenge.Detector
import Pageflow.Progress.Publish
/-!
Pausing tasks at challenges and resuming them. A task waits until a request to resume it finds its
challenge gone, or until its time is up; other tasks are not affected.
-/
namespace Pageflow.Pause

open Browser

/-- How challenges are found, where pauses are announced and how long they last. -/
structure Coordinator where
  detector : Challenge.Detector
  channel : Progress.Channel
  timeoutSec : Double

/-- Why a request to resume a task was refused. -/
inductive Refusal where
  | notPaused
  | stillVisible
deriving DecidableEq

def Refusal.name : Refusal → String
  | .notPaused => "not_paused"
  | .stillVisible => "challenge_still_visible"

/-- Changes the board of paused tasks. -/
def changeBoard (f : Board → Board) : Activity Unit :=
  Program.modify fun s => { s with board := f s.board }

/-- Withdraws a signal that still waits, and lets others notice. -/
def withdraw (signal : Nat) : Activity Unit := do
  changeBoard fun b => b.settle signal .withdrawn
  Activity.pass

namespace Coordinator

/-- The coordinator that the settings ask for; pauses are announced on the event bus. -/
def ofSettings (s : ChallengeSettings) : Coordinator :=
  { detector := .new s.containerSelectors s.keywords, channel := Progress.busChannel
    timeoutSec := s.pauseTimeoutSec }

/-- Waits for the signal of a pause. A signal that was given in time counts even if the waiting
was cut short meanwhile. -/
def awaitSignal (c : Coordinator) (h : Handle) : Activity Unit :=
  .ask (.await (.settled h.signal) (some c.timeoutSec)) fun reply => do
    let s ← Program.state
    match s.board.signal h.signal, reply with
    | .given, _ => pure ()
    | .withdrawn, _ => .fail .cancelled
    | .waiting, .ok _ =>
      withdraw h.signal
      .fail (.challengeTimeout h.taskId c.timeoutSec)
    | .waiting, .error fault =>
      withdraw h.signal
      .fail fault

/-- Pauses a task until it is resumed. -/
def pause (c : Coordinator) (taskId : String) (page : Option PageRef)
    (stepIndex totalSteps : Int) : Activity Unit := do
  let s ← Program.state
  match s.board.begin? taskId page stepIndex totalSteps with
  | none => .fail (.foreign "RuntimeError" ("Task " ++ taskId ++ " is already paused"))
  | some (h, board) =>
    changeBoard fun _ => board
    Progress.announce c.channel taskId .paused stepIndex totalSteps
      "Verification challenge detected; waiting for an operator to resolve it"
    (c.awaitSignal h).ensure (changeBoard fun b => b.remove h)

/-- Pauses a task if its page shows a challenge; tells whether it was paused. -/
def checkpoint (c : Coordinator) (taskId : String) (page : Option PageRef)
    (stepIndex totalSteps : Int) : Activity Bool := do
  let d ← c.detector.inspect page
  if d.isFound then
    c.pause taskId page stepIndex totalSteps
  return d.isFound

/-- Resumes a task if its challenge is gone; yields why not otherwise. -/
def resume (c : Coordinator) (taskId : String) : Activity (Option Refusal) := do
  let s ← Program.state
  match s.board.resumable? taskId with
  | none => return some .notPaused
  | some h =>
    if ← c.detector.isActive h.page then return some .stillVisible
    let s ← Program.state
    match s.board.accept? h with
    | none => return some .notPaused
    | some board =>
      changeBoard fun _ => board
      Progress.announce c.channel taskId .running h.stepIndex h.totalSteps
        "Challenge resolved; resuming"
      return none

end Coordinator

/-- Ends the pause of a task without resuming it; tells whether there was one. -/
def cancel (taskId : String) : Activity Bool :=
  Program.update fun s =>
    let (cancelled, board) := s.board.cancel taskId
    (cancelled, { s with board })

end Pageflow.Pause
