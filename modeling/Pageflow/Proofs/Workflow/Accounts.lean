import Pageflow.Proofs.Session.Calm
import Pageflow.Proofs.Workflow.Telling
import Pageflow.Service.Basic

/-! However the answers fall, a run returns an execution, and the events of its task
are those of a course that the execution accounts for. -/
namespace Pageflow.Runner
open Browser Pause Progress

/-- The events of a task are the steps of a course with their pauses, in order, and at
last one event that says how the execution ended. -/
structure Accounts (taskId : String) (steps : List Step) (e : Execution) (course : Course)
    (events : List Event) : Prop where
  events : events.map Event.undated =
    course.told taskId steps.length ++ [closing taskId steps.length e.failure]
  fits : course.Fits steps e.failure
  completed_iff : (closing taskId steps.length e.failure).status = .completed ↔
    e.status = "completed"
  failure_iff : e.status = "completed" ↔ e.failure = none

theorem closing_status_iff {taskId : String} {total : Nat} (e : Execution) :
    (closing taskId total e.failure).status = .completed ↔ e.status = "completed" := by
  unfold closing Execution.status Execution.completed
  cases e.failure with
  | none => simp
  | some f => simp

theorem status_eq_completed_iff (e : Execution) : e.status = "completed" ↔ e.failure = none := by
  unfold Execution.status Execution.completed
  cases e.failure with
  | none => simp
  | some f => simp

variable {k : SinkId} {r : Runner} {w : Workflow} {context : TaskContext} {c : Nat → Coordinator}
  {x : Unit × State} {history : List (Move State Unit)}

def contract (k : SinkId) (taskId : String) (steps : List Step) :
    Nat → Contract State Ask Unit Answer Phase
  | 0 => runContract k taskId steps
  | _ + 1 => resumeContract k taskId

theorem keeps_calls (hr : r.Serves k context.taskId) (hc : ∀ i, (c i).channel = busChannel)
    (i : Nat) (y : Unit × State)
    (hready : (contract k context.taskId (w.resolve context) i).rely
      (contract k context.taskId (w.resolve context) i).start y) :
    (calls r w context c i).Keeps (climate k context.taskId)
      (contract k context.taskId (w.resolve context) i)
      (contract k context.taskId (w.resolve context) i).closes
      (contract k context.taskId (w.resolve context) i).start y y := by
  cases i with
  | zero =>
    refine Program.keeps_bind.mpr ((keeps_execute w context hr y hready).mono ?_)
    rintro _ φ before now ⟨e, course, rfl, hfits, hsees⟩
    exact ⟨.going _, hsees, course, e, rfl, hfits, rfl⟩
  | succ i => exact keeps_resume (hc i) y hready

/-- Whenever its turn comes, the run finds what it relies on. -/
theorem plays_at {taskId : String} {steps : List Step} (hunused : Sees k taskId x.2 [] [])
    {s : Unit × State} {phase : Nat → Phase}
    (h : Plays (climate k taskId) (contract k taskId steps) x history s phase) :
    (phase 0).At k taskId s.2 := by
  induction h with
  | start => exact hunused
  | turn who _ hmoves ih =>
    cases who with
    | zero =>
      rw [Function.update_self]
      exact hmoves
    | succ i =>
      rw [Function.update_of_ne (Nat.succ_ne_zero i).symm]
      obtain ⟨-, hmoves⟩ := hmoves
      split at hmoves
      · obtain ⟨h, hresumes⟩ := hmoves
        exact ih.resumes hresumes
      · exact ih.beside hmoves
  | happen _ hbeside ih => exact ih.beside hbeside

/-- The runner of a service opens its pages on the session that is shared. -/
theorem serves_service (s : Service) (taskId : String)
    (hpauses : ∀ c, s.coordinator = some c → c.channel = busChannel) :
    s.runner.Serves k taskId where
  channel := rfl
  pauses := hpauses
  acquire := Session.calm_acquire tolerates_aside spares_climate (fun _ _ => .of_eq rfl rfl) _
  release page := Session.calm_release tolerates_aside spares_climate page

/-! ## A run that is paused once -/

/-- Answers of a browser that does as it is asked, and shows a challenge or not. -/
def obliging (challenge : Bool) : (q : Ask) → Ask.Reply q
  | .await _ _ => .ok true
  | .browser .startDriver => .ok ()
  | .browser (.launch _ _) => .ok ⟨0⟩
  | .browser (.newPage _) => .ok ⟨0⟩
  | .page page (.waitFor selector _) => .ok (some ⟨page, selector⟩)
  | .page _ (.candidates _) =>
    .ok (if challenge then .arr [.obj [("visible", .bool true)]] else .null)
  | .page _ .url => .ok ""
  | .page _ .isClosed => .ok false
  | .page _ (.click _ _) | .page _ .close | .page _ (.listen _) | .page _ (.unlisten _) => .ok ()
  | .page _ (.setTimeout _) | .page _ (.setNavigationTimeout _) => .ok ()
  | q => q.refused

def atOnce (q : Ask) : Option (Ask.Reply q) := if q.suspends then none else some q.refused

theorem settles_climate {taskId : String} : (climate k taskId).Settles atOnce where
  waits q hnow honce := by
    unfold atOnce at hnow
    rw [show q.suspends = false from honce] at hnow
    cases hnow
  answers q r hnow := by
    unfold atOnce at hnow
    split at hnow
    · cases hnow
    · rename_i hsuspends
      cases hnow
      refine ⟨Bool.eq_false_iff.mpr hsuspends, fun x => ⟨q.spares_refused, ?_⟩⟩
      refine q.listens_refused fun page event hq => hsuspends ?_
      rw [hq]
      rfl

theorem spares_obliging (challenge : Bool) (q : Ask) : q.Spares (obliging challenge q) := by
  unfold obliging
  split <;> first
    | exact uncancelled_ok _
    | exact Ask.spares_refused _

theorem obliging_answers {taskId : String} (challenge : Bool) (q : Ask) (x : Unit × State) :
    (climate k taskId).answers q x (obliging challenge q) x.1 := by
  refine ⟨spares_obliging challenge q, ?_⟩
  cases q with
  | page page call =>
    cases call with
    | listen event => rfl
    | _ => trivial
  | _ => trivial

def sampleSettings : Settings where
  env := "local"
  projectRoot := "."
  debug := false
  browser := ⟨true, "", "", "profile", 1920, 1080, [], 15000, 60000⟩
  runner := ⟨"", 15000, "", "", 600, 50, 200, "workflows"⟩
  capture := ⟨50, 500, 10000, 200, 800, 1500, 3, 60⟩
  challenge := ⟨true, ["#challenge"], [], 300⟩
  storage := ⟨"local", "blobs", "", "", "", ""⟩
  monitoring := ⟨"", 10, false⟩
  api := ⟨[]⟩

def sampleService : Service where
  settings := sampleSettings
  session := { profile := "profile" }
  coordinator := some (.ofSettings sampleSettings.challenge)
  progress := 0
  startedAt := 0

def sampleWorkflow : Workflow where
  id := "open"
  name := "Open"
  description := ""
  requiredInput := none
  steps := [⟨"", .click "#open"⟩]
  enabled := true
  version := "1"
  tags := []
  id_valid := by decide
  steps_ne := by simp

def sampleContext : TaskContext := ⟨"t", "", []⟩

/-- The state before the run: one sink that keeps the events of all tasks. -/
def watchedState : Unit × State := ((), { bus := (Bus.empty.add (.memory []) none).2 })

abbrev sampleCalls : Nat → Activity Answer :=
  calls sampleService.runner sampleWorkflow sampleContext fun _ =>
    .ofSettings sampleSettings.challenge

/-- The run meets a challenge and waits; a request finds the challenge gone and resumes
the run. -/
def resumedOnce : Ensemble State Ask Ask.Reply Unit Answer :=
  let paused := ((Ensemble.start watchedState).call atOnce 0 (sampleCalls 0)).replies atOnce 0
    (obliging true) 14
  let resumed := (paused.call atOnce 1 (sampleCalls 1)).replies atOnce 1 (obliging false) 3
  resumed.replies atOnce 0 (obliging false) 6

theorem reaches_resumedOnce : ∃ history,
    Reaches (climate 0 sampleContext.taskId) sampleCalls watchedState history resumedOnce := by
  have hstart : Reaches (climate 0 sampleContext.taskId) sampleCalls watchedState [] _ := .start
  have hbegun := hstart.call settles_climate 0 rfl trivial
  obtain ⟨_, hpaused⟩ := hbegun.replies settles_climate _ (obliging_answers true) 0 14
  have hrequested := hpaused.call settles_climate 1
    (Ensemble.replies_stage_of_ne Nat.one_ne_zero ..) trivial
  obtain ⟨_, hresumed⟩ := hrequested.replies settles_climate _ (obliging_answers false) 1 3
  exact hresumed.replies settles_climate _ (obliging_answers false) 0 6

end Pageflow.Runner
