import Pageflow.Proofs.Session.Calm
import Pageflow.Proofs.Workflow.Parts
import Pageflow.Proofs.Workflow.Results

/-! A run leaves the table of tasks alone, whatever it is answered and even if it is
cancelled, and what it yields names the task and the workflow that were run. -/
namespace Pageflow
open Browser

variable {W α β : Type} {env : Climate Pageflow.State Ask Ask.Reply W}

def SameTasks (x y : W × State) : Prop := y.2.tasks = x.2.tasks

/-- Turns that leave the table of tasks alone. -/
def sameTasks (env : Climate State Ask Ask.Reply W) : Upkeep W Unit Unit where
  env
  contract := .within SameTasks
  holds _ := SameTasks
  cancels := True
  spares hspares := absurd trivial hspares
  answered _ _ hsame := hsame
  stopped _ hsame := ⟨(), hsame, trivial, fun _ _ _ _ _ => rfl⟩

/-- No turn of the activity changes the table of tasks. -/
abbrev LeavesTasks (env : Climate State Ask Ask.Reply W) (p : Activity α) : Prop :=
  (sameTasks env).Kept p

theorem leaves_modify {f : State → State} (h : ∀ s, (f s).tasks = s.tasks) :
    LeavesTasks env (Program.modify f) :=
  kept_modify fun _ _ now hsame => (h now.2).trans hsame

theorem leaves_fault (fault : Fault) : LeavesTasks env (.fail fault : Activity α) :=
  kept_fault (γ := α) fun _ => trivial

theorem LeavesTasks.calm {p : Activity α} (h : LeavesTasks env p) :
    p.Calm env SameTasks fun _ => True :=
  fun before now hsame => (h () before now hsame).mono fun _ _ _ _ hend => ⟨hend.1, trivial⟩

theorem Session.handles_sameTasks : Session.Handles (sameTasks env) := fun _ _ _ _ => id

theorem Network.follows_sameTasks : Network.Follows (sameTasks env) := fun _ _ _ _ => id

/-! ## Telling and pausing -/

namespace Progress

/-- A channel that leaves the table of tasks alone. -/
def Channel.Tidy (env : Climate State Ask Ask.Reply W) (channel : Channel) : Prop :=
  ∀ tell ∈ channel, ∀ taskId e, LeavesTasks env (tell taskId e)

theorem leaves_busChannel : Channel.Tidy env busChannel := by
  rintro _ ⟨⟩
  exact kept_publish fun _ _ _ _ _ => id

theorem leaves_announce {channel : Channel} (h : channel.Tidy env) (taskId : String)
    (status : Status) (stepIndex totalSteps : Int) (message : String) :
    LeavesTasks env (announce channel taskId status stepIndex totalSteps message) := by
  cases channel with
  | none => exact kept_done ()
  | some tell =>
    exact kept_bind (kept_bind Activity.kept_now fun _ => kept_done _) fun _ =>
      kept_rescueIf (h tell rfl _ _) fun _ => kept_done ()

end Progress

namespace Pause

theorem leaves_changeBoard (f : Board → Board) : LeavesTasks env (changeBoard f) :=
  leaves_modify fun _ => rfl

theorem leaves_cancel (taskId : String) : LeavesTasks env (cancel taskId) :=
  kept_update fun _ _ _ => id

theorem leaves_withdraw (signal : Nat) : LeavesTasks env (withdraw signal) :=
  kept_bind (leaves_changeBoard _) fun _ => kept_question fun _ => id

namespace Coordinator

variable {c : Coordinator}

theorem leaves_awaitSignal (h : Handle) : LeavesTasks env (c.awaitSignal h) := by
  refine kept_ask fun _ _ => kept_read fun s => ?_
  simp only [Program.bind]
  split
  · exact kept_done ()
  · exact leaves_fault _
  all_goals exact kept_bind (leaves_withdraw _) fun _ => leaves_fault _

theorem leaves_pause (hc : c.channel.Tidy env) (taskId : String) (page : Option PageRef)
    (stepIndex totalSteps : Int) : LeavesTasks env (c.pause taskId page stepIndex totalSteps) := by
  refine kept_read fun s => ?_
  simp only [Program.bind]
  split
  · exact kept_fail rfl
  · exact kept_bind (leaves_changeBoard _) fun _ =>
      kept_bind (Progress.leaves_announce hc _ _ _ _ _) fun _ =>
        kept_ensure (leaves_awaitSignal _) (leaves_changeBoard _)

end Coordinator
end Pause

/-! ## Runs -/

namespace Runner

/-- The parts of a runner leave the table of tasks alone. -/
structure Tidy (env : Climate Pageflow.State Ask Ask.Reply W) (r : Runner) : Prop where
  acquire : LeavesTasks env r.acquire
  release : ∀ page, LeavesTasks env (r.release page)
  channel : r.channel.Tidy env
  pauses : ∀ c ∈ r.coordinator, c.channel.Tidy env

variable {r : Runner} {run : Run}

section

variable (hr : r.Tidy env)
include hr

theorem leaves_performSteps (start : Double) (index : Nat) (g : Gathered) (steps : List Step) :
    LeavesTasks env (r.performSteps run start index g steps) :=
  have hkept : True → ∀ (_ : Unit) (before now : W × State), SameTasks before now →
      SameTasks before now := fun _ _ _ _ => id
  (breaks_performSteps hkept (fun c hc _ => breaks_look hkept
    ((Pause.Coordinator.leaves_pause (hr.pauses c hc) _ _ _ _).breaks hkept))
    (fun _ _ _ => Progress.leaves_announce hr.channel _ _ _ _ _) start index g steps).kept trivial

theorem leaves_onPage (start : Double) (steps : List Step) :
    LeavesTasks env (r.onPage run start steps) :=
  kept_bind (Network.kept_watch Network.follows_sameTasks _) fun _ =>
    kept_bind (Network.kept_attach Network.follows_sameTasks _) fun _ =>
      kept_ensure (leaves_performSteps hr start 0 {} steps)
        (kept_bind (Network.kept_detach Network.follows_sameTasks _) fun _ => kept_ite
          (kept_bind (Pause.leaves_cancel _) fun _ => hr.release _) (hr.release _))

/-- What is yielded names the task and the workflow. -/
def Names (w : Workflow) (context : TaskContext) (result : Result Execution) : Prop :=
  ∀ e, result = .ok e → e.taskId = context.taskId ∧ e.workflowId = w.id

omit hr in
theorem names_error {w : Workflow} {context : TaskContext} (fault : Fault) :
    Names w context (.error fault) :=
  fun _ h => nomatch h

omit hr in
/-- What names nothing may come before. -/
theorem calm_bind_names {p : Activity α} {f : α → Activity Execution} {w : Workflow}
    {context : TaskContext} (hp : LeavesTasks env p)
    (hf : ∀ value, (f value).Calm env SameTasks (Names w context)) :
    (p.bind f).Calm env SameTasks (Names w context) :=
  Program.calm_bind hp.calm (fun value _ => hf value) fun _ _ => names_error _

theorem calm_conclude (w : Workflow) (context : TaskContext) (startedAt : Int) (start : Double)
    (failure : Option Failure) (g : Gathered) :
    (r.conclude w context startedAt start failure g).Calm env SameTasks (Names w context) := by
  have hreport : LeavesTasks env
      (r.report context.taskId (w.resolve context).length failure) := by
    cases failure with
    | none => exact Progress.leaves_announce hr.channel _ _ _ _ _
    | some f => exact Progress.leaves_announce hr.channel _ _ _ _ _
  refine calm_bind_names Activity.kept_elapsed fun stop =>
    calm_bind_names Activity.kept_now fun completedAt => calm_bind_names hreport fun _ => ?_
  refine Program.calm_done ?_
  rintro _ ⟨⟩
  exact ⟨rfl, rfl⟩

theorem calm_execute (w : Workflow) (context : TaskContext) :
    (r.execute w context).Calm env SameTasks (Names w context) := by
  rw [execute_eq]
  refine calm_bind_names Activity.kept_now fun startedAt =>
    calm_bind_names Activity.kept_elapsed fun start =>
      calm_bind_names (kept_attempt hr.acquire) fun result => ?_
  split
  · exact calm_bind_names (leaves_onPage hr _ _) fun ⟨_, _⟩ => calm_conclude hr w context _ _ _ _
  · exact Program.calm_fail (names_error _)
  · exact calm_conclude hr w context _ _ _ _

end

end Runner

/-- The runner of a service that pauses on the event bus, if it does. -/
theorem Service.leaves_runner (s : Service)
    (hpauses : ∀ c ∈ s.coordinator, c.channel = Progress.busChannel) : s.runner.Tidy env where
  acquire := Session.kept_acquire Session.handles_sameTasks _
  release := Session.kept_release
  channel := Progress.leaves_busChannel
  pauses c hc := by
    rw [hpauses c hc]
    exact Progress.leaves_busChannel

end Pageflow
