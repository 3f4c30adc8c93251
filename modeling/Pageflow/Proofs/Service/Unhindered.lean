import Pageflow.Proofs.Network.Idle
import Pageflow.Proofs.Pause.Board
import Pageflow.Proofs.Progress.Announce
import Pageflow.Proofs.Service.Calls
import Pageflow.Proofs.Session.Calm
import Pageflow.Proofs.Workflow.Interference
import Pageflow.Proofs.Workflow.Parts
import Pageflow.Proofs.Workflow.Results

/-! Runs that nobody hinders. Where nothing is cancelled, a workflow that is run for a task yields a
result, also if the task is paused; the registry stays as it is. -/
namespace Pageflow
open Browser

/-! ## Any runner

A run that is not cancelled comes to its end. Whatever goes wrong in a step or in getting a page
becomes part of the result: the run yields one, and never fails. -/

namespace Runner

variable {W α Φ : Type} {u : Upkeep W α Φ} {r : Runner} {run : Run}

/-- A runner that is served well: nothing is cancelled, pages tell of their requests, and what the
runner does beside its steps keeps up what its call does. -/
structure Served (u : Upkeep W α Φ) (r : Runner) (taskId : String) : Prop where
  spares : ¬ u.cancels
  channel : r.channel = Progress.busChannel
  listens : Progress.Listens u
  follows : Network.Follows u
  tells : Network.Tells u.env
  acquire : u.Kept r.acquire
  release : ∀ page, u.Succeeds (r.release page)
  pauses : ∀ c ∈ r.coordinator, ∀ page stepIndex totalSteps,
    u.Kept (c.pause taskId page stepIndex totalSteps)
  cancel : u.Succeeds (Pause.cancel taskId)

section

variable (hr : r.Served u run.taskId)
include hr

/-- A step ends with an outcome, whatever fails in it. -/
theorem succeeds_performStep (index : Nat) (step : Step) (g : Gathered) :
    u.Succeeds (r.performStep run index step g) := by
  have hnever : u.cancels → ∀ (φ : Φ) (before now : W × State), u.holds φ before now → False :=
    fun hcancels => absurd hcancels hr.spares
  have hperform : u.Kept (r.perform run index g step.action) :=
    (breaks_perform hnever (fun c hc => breaks_look hnever
      ((hr.pauses c hc _ _ _).breaks hnever)) g step.action).kept_of_never
  exact succeeds_rescue hr.spares hperform fun _ => succeeds_done _

theorem succeeds_performSteps (start : Double) (index : Nat) (g : Gathered) (steps : List Step) :
    u.Succeeds (r.performSteps run start index g steps) := by
  induction steps generalizing index g with
  | nil => exact succeeds_done _
  | cons step rest ih =>
    refine Activity.succeeds_elapsed.bind fun _ => succeeds_ite (succeeds_done _) ?_
    refine Upkeep.Succeeds.bind ?_ fun _ =>
      (succeeds_performStep hr index step g).bind fun ⟨outcome, g⟩ => ?_
    · exact Progress.succeeds_announce hr.listens hr.spares (.inr hr.channel) _ _ _ _ _
    · cases outcome with
      | fatal failure => exact succeeds_done _
      | ok | recovered => exact ih _ _

theorem succeeds_handBack : u.Succeeds (r.handBack run) :=
  (Network.succeeds_detach hr.follows hr.spares _).bind fun _ =>
    succeeds_ite (hr.cancel.bind fun _ => hr.release _) (hr.release _)

theorem succeeds_onPage (start : Double) (steps : List Step) :
    u.Succeeds (r.onPage run start steps) :=
  (Network.succeeds_watch hr.follows _).bind fun _ =>
    (Network.succeeds_attach hr.follows hr.tells _).bind fun _ =>
      (succeeds_performSteps hr start 0 {} steps).ensure (succeeds_handBack hr)

end

variable {w : Workflow} {context : TaskContext}

theorem succeeds_conclude (hr : r.Served u context.taskId) (startedAt : Int) (start : Double)
    (failure : Option Failure) (g : Gathered) :
    u.Succeeds (r.conclude w context startedAt start failure g) := by
  refine Activity.succeeds_elapsed.bind fun _ => Activity.succeeds_now.bind fun _ =>
    Upkeep.Succeeds.bind ?_ fun _ => succeeds_done _
  cases failure with
  | none => exact Progress.succeeds_announce hr.listens hr.spares (.inr hr.channel) _ _ _ _ _
  | some f => exact Progress.succeeds_announce hr.listens hr.spares (.inr hr.channel) _ _ _ _ _

theorem succeeds_execute (hr : r.Served u context.taskId) (w : Workflow) :
    u.Succeeds (r.execute w context) := by
  rw [execute_eq]
  refine Activity.succeeds_now.bind fun startedAt => Activity.succeeds_elapsed.bind fun start =>
    succeeds_bind_attempt hr.acquire fun result hfine => ?_
  split
  · next page =>
    refine Upkeep.Succeeds.bind ?_ fun ⟨failure, g⟩ => succeeds_conclude hr startedAt start failure g
    exact succeeds_onPage hr start _
  · exact absurd (hfine rfl) hr.spares
  · exact succeeds_conclude hr _ _ _ _

end Runner

/-! ## A task of a service -/

namespace Pause.Board

/-- A pause that was begun still waits, or its task was resumed. -/
def Holds (b : Board) (h : Handle) : Prop :=
  (h ∈ b.handles ∧ b.signal h.signal = .waiting) ∨ b.signal h.signal = .given

variable {b b' : Board} {h : Handle}

theorem holds_of_begin? {taskId : String} {page : Option Browser.PageRef} {stepIndex totalSteps : Int}
    (hbegin : b.begin? taskId page stepIndex totalSteps = some (h, b')) : b'.Holds h := by
  obtain ⟨-, -, hsignal, hhandles, hsignals⟩ := begin?_eq_some hbegin
  refine .inl ⟨?_, ?_⟩
  · rw [hhandles]
    exact List.mem_append_right _ (List.mem_singleton_self h)
  · rw [signal_append hsignals, if_pos hsignal]

theorem Holds.ne_withdrawn (hholds : b.Holds h) : b.signal h.signal ≠ .withdrawn := by
  intro hwithdrawn
  obtain ⟨-, hwaiting⟩ | hgiven := hholds
  · cases hwithdrawn.symm.trans hwaiting
  · cases hwithdrawn.symm.trans hgiven

end Pause.Board

namespace Service

open Browser Pause

variable {W : Type}

/-- Surroundings in which a batch is not hindered, if its tasks are given `names`: nothing is
cancelled, nor is a pause of these tasks, pages tell of their requests, nobody touches the registry,
and a fresh id is one that was not issued before and has no record. -/
structure Unhindered (env : Responses State Ask Ask.Reply W) (issued : W → List String)
    (names : String → Prop) : Prop where
  spares : ∀ (q : Ask) x, q.Spares (env q x).1
  listens : ∀ (q : Ask) x, q.Listens (env q x).1
  registry : ∀ q x, (env q x).2.2.registry = x.2.registry
  pauses : ∀ q x h, names h.taskId → x.2.board.Holds h → (env q x).2.2.board.Holds h
  grows : ∀ q x, issued x.1 ⊆ issued (env q x).2.1
  fresh : ∀ x, let id := (env .freshId x).1
    id ≠ "" ∧ names id ∧ id ∉ issued x.1 ∧ x.2.tasks.get? id = none ∧
      id ∈ issued (env .freshId x).2.1
  /-- Nobody else has a turn while an id is made or the clock is read. -/
  atOnce : ∀ q x, q = .freshId ∨ q = .now → (env q x).2.2 = x.2

section

variable {env : Responses State Ask Ask.Reply W} {issued : W → List String}
  {names : String → Prop} (hfree : Unhindered env issued names) {registry : Registry}
  {before : List String}

/-- What stays as it is while a task of the batch is run. -/
structure Stays (issued : W → List String) (registry : Registry) (before : List String)
    (x : W × State) : Prop where
  registry : x.2.registry = registry
  issued : before ⊆ issued x.1

include hfree in
theorem Unhindered.stays (q : Ask) (x : W × State) (h : Stays issued registry before x) :
    Stays issued registry before (env q x).2 where
  registry := (hfree.registry q x).trans h.registry
  issued := List.Subset.trans h.issued (hfree.grows q x)

/-- What a task of the batch keeps up. -/
def Unhindered.upkeep (registry : Registry) (before : List String) :
    Upkeep W Unit (Option (W × State)) :=
  .among (Stays issued registry before) hfree.stays hfree.spares

/-- What it keeps up in a pause. -/
def Unhindered.pausing (registry : Registry) (before : List String) {h : Handle}
    (hname : names h.taskId) : Upkeep W Unit (Option (W × State)) :=
  .among (fun x => Stays issued registry before x ∧ x.2.board.Holds h)
    (fun q x hx => ⟨hfree.stays q x hx.1, hfree.pauses q x h hname hx.2⟩) hfree.spares

/-! ## Pausing -/

include hfree in
/-- The wait of a pause that nobody cancels ends with its signal given, or by the pause itself. -/
theorem keeps_awaitSignal {c : Coordinator} {h : Handle} (hname : names h.taskId)
    {stop : Option (W × State)} {begun now : W × State}
    (hstays : Stays issued registry before now) (hholds : now.2.board.Holds h) :
    (c.awaitSignal h).Keeps env.climate env.contract
      (fun result _ _ now => Stays issued registry before now ∧ Uncancelled result) stop begun
      now := by
  have hgivesUp : ∀ (fault : Fault) (stop : Option (W × State)) (begun now : W × State),
      fault.isCancelled = false → Stays issued registry before now →
      ((withdraw h.signal).bind fun _ => .fail fault : Activity Unit).Keeps env.climate env.contract
        (fun result _ _ now => Stays issued registry before now ∧ Uncancelled result) stop begun
        now := by
    intro fault stop begun now hfault hnow
    have hkept : (hfree.upkeep registry before).Kept
        ((withdraw h.signal).bind fun _ => .fail fault : Activity Unit) :=
      kept_bind (kept_bind (kept_modify fun _ _ _ hx => ⟨hx.registry, hx.issued⟩) fun _ =>
        kept_question fun _ => id) fun _ => kept_fail hfault
    exact (hkept stop begun now hnow).mono fun _ _ _ _ hend => hend
  refine ⟨False.elim, fun _ => ⟨some now, rfl, trivial, ?_⟩⟩
  rintro _ reply _ ⟨_, ⟨⟩, q, rfl⟩ ⟨x, hanswer, rfl⟩
  have hspared := hfree.spares (.await (.settled h.signal) (some c.timeoutSec)) x
  rw [hanswer] at hspared
  have hlater := hfree.stays q now hstays
  have hheld := hfree.pauses q now h hname hholds
  unfold Program.state
  simp only [Program.bind_eq_bind, Program.bind, Program.Keeps]
  split
  · exact ⟨hlater, uncancelled_ok ()⟩
  · next hwithdrawn => exact absurd hwithdrawn hheld.ne_withdrawn
  · exact hgivesUp _ _ _ _ rfl hlater
  · exact hgivesUp _ _ _ _ (Uncancelled.not_isCancelled hspared) hlater

theorem kept_pause {c : Coordinator} (hc : c.channel = Progress.busChannel) {taskId : String}
    (hname : names taskId) (page : Option PageRef) (stepIndex totalSteps : Int) :
    (hfree.upkeep registry before).Kept (c.pause taskId page stepIndex totalSteps) := by
  intro stop begun now hstays
  unfold Coordinator.pause Program.state
  simp only [Program.bind_eq_bind, Program.bind, Program.Keeps]
  split
  · exact ⟨hstays, Upkeep.fine_of_uncancelled (uncancelled_error_iff.mpr rfl)⟩
  · next h board hbegin =>
    obtain ⟨-, rfl, -⟩ := Board.begin?_eq_some hbegin
    have hholds := Board.holds_of_begin? hbegin
    have hlistens : Progress.Listens (hfree.pausing registry before hname) :=
      fun _ _ _ _ _ hx => ⟨⟨hx.1.registry, hx.1.issued⟩, hx.2⟩
    have htell := Progress.succeeds_announce hlistens id (.inr hc) h.taskId .paused stepIndex
      totalSteps "Verification challenge detected; waiting for an operator to resolve it"
    refine Program.keeps_modify_bind.mpr (Program.keeps_bind.mpr ?_)
    refine (htell stop begun (now.1, { now.2 with board })
      ⟨⟨hstays.registry, hstays.issued⟩, hholds⟩).mono ?_
    rintro _ stop begun now ⟨⟨hstays, hholds⟩, _, rfl⟩
    refine Program.keeps_ensure.mpr ((keeps_awaitSignal hfree hname hstays hholds).mono ?_)
    rintro result stop begun now ⟨hstays, hspared⟩
    exact ⟨⟨hstays.registry, hstays.issued⟩, fun hcancelled => hspared hcancelled⟩

/-! ## Running a task -/

theorem handles_upkeep : Session.Handles (hfree.upkeep registry before) :=
  fun _ _ _ _ hx => ⟨hx.registry, hx.issued⟩

theorem served_runner {s : Service} (hpauses : ∀ c ∈ s.coordinator, c.channel = Progress.busChannel)
    {taskId : String} (hname : names taskId) :
    s.runner.Served (hfree.upkeep registry before) taskId where
  spares := id
  channel := rfl
  listens _ _ _ _ _ hx := ⟨hx.registry, hx.issued⟩
  follows _ _ _ _ hx := ⟨hx.registry, hx.issued⟩
  tells := by
    rintro page event _ reply _ ⟨x, hanswer, rfl⟩
    have htells := hfree.listens (.page page (.listen event)) x
    rwa [hanswer] at htells
  acquire := Session.kept_acquire (handles_upkeep hfree) _
  release page := Session.succeeds_release id page
  pauses c hc page stepIndex totalSteps := kept_pause hfree (hpauses c hc) hname _ _ _
  cancel := succeeds_update fun _ _ _ hx => ⟨hx.registry, hx.issued⟩

include hfree in
/-- A workflow that is run for a task of the batch yields a result, and names the task in it. -/
theorem execute_yields {s : Service}
    (hpauses : ∀ c ∈ s.coordinator, c.channel = Progress.busChannel) (w : Workflow)
    (context : TaskContext) (hname : names context.taskId) {x : W × State}
    (hx : Stays issued registry before x) :
    ∃ calls e y, (s.runner.execute w context).Runs env x calls (.ok e) y ∧
      Stays issued registry before y ∧ e.taskId = context.taskId ∧ e.workflowId = w.id := by
  obtain ⟨calls, e, y, hruns, hy⟩ :=
    (Runner.succeeds_execute (served_runner hfree hpauses hname) w).runs hx
  have hnames := (Runner.calm_execute (s.leaves_runner hpauses) w context).run env (fun _ => rfl) x
  rw [hruns.run] at hnames
  exact ⟨calls, e, y, hruns, hy, hnames e rfl⟩

end

end Service
end Pageflow
