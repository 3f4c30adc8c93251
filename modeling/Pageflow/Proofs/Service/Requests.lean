import Pageflow.Proofs.Service.Executions

/-! What the requests to a service do to the tasks: calls that run workflows, and requests to
resume a task or to cancel its pause. -/
namespace Pageflow.Service.Agreement
open Browser Pause Progress

namespace Request

/-- The task that a request runs under an id of its own. -/
def taskId? : Request → Option String
  | .call (.submit _ order) | .call (.run _ order) => order.taskId.filter (!·.isEmpty)
  | .call (.runWorkflow _ context) => some context.taskId
  | .call (.runBatch _ _ _) | .resume _ | .cancel _ => none

def run (s : Service) : Request → Activity Outcome
  | .call c => return .reported (← c.report s)
  | .resume taskId => return .resumed (← s.resume taskId)
  | .cancel taskId => return .cancelled (← Pause.cancel taskId)

end Request

/-- A request to resume a task happens beside all tasks until it is accepted. -/
def requestContract (s : Service) (named : String → Prop) :
    Contract State Ask (List String) Outcome Stance where
  start := .silent none
  rely φ x := Good s named φ x
  rests _ _ := True
  moves _ x φ y := match φ with
    | .silent none => Leaves s x y ∧ Orderly s y.2
    | .accepted => x.1 ⊆ y.1 ∧ Orderly s y.2 ∧ ∃ h, Accepts s h x.2 y.2
    | _ => False
  ends _ result := ∀ report, result ≠ .ok (.reported report)

def contract (s : Service) (named : String → Prop) :
    Request → Contract State Ask (List String) Outcome Stance
  | .call c => callContract s named (Request.call c).taskId?
  | .resume _ | .cancel _ => requestContract s named

variable {s : Service} {named : String → Prop} {name : Option String} {φ : Stance}
  {before now : Site} {r : TaskRecord} {workflowId : String} {order : Order} {α : Type}

/-! ## Preparing -/

theorem keeps_require {post : Ending State (List String) Workflow Stance}
    (hpost : ∀ result, post result φ before now) :
    (require workflowId).Keeps (climate s named) (callContract s named name) post φ before now :=
  Program.keeps_ofResult.mpr (hpost _)

theorem keeps_chooseId {taskId : Option String} {post : Ending State (List String) String Stance}
    (hmoves : Moves s named φ before (.silent (taskId.filter (!·.isEmpty))) now)
    (hpost : ∀ id y, id ≠ "" → Moves s named φ before (.silent (some id)) y →
      post (.ok id) φ before y) :
    (chooseId taskId).Keeps (climate s named) (callContract s named name) post φ before now := by
  unfold chooseId
  split
  · rename_i id hid
    rw [hid] at hmoves
    exact hpost id now (by simpa using (Option.filter_eq_some_iff.mp hid).2) hmoves
  · rename_i hnone
    rw [hnone] at hmoves
    refine ⟨fun _ id w hanswer => ?_, fun hlater => absurd rfl hlater⟩
    obtain ⟨hid, hunnamed, hnew, rfl⟩ := hanswer.2
    exact hpost id _ hid (hmoves.issue hunnamed hnew)

theorem keeps_enter {id : String} {post : Ending State (List String) TaskRecord Stance}
    (hmoves : Moves s named φ before (.silent (some id)) now)
    (hpost : ∀ r y, r.taskId = id → Moves s named φ before (.silent (some r.taskId)) y →
      y.2.tasks.get? r.taskId = some r → post (.ok r) φ before y) :
    (enter id workflowId order).Keeps (climate s named) (callContract s named name) post φ before
      now := by
  refine keeps_bind_ask rfl hmoves fun time w hmoves => ?_
  have henters := Table.enters_submit now.2.tasks id workflowId (keptInput order.request.input)
    order.metadata time
  obtain ⟨hentered, hrecord⟩ := hmoves.enter henters
  exact hpost _ _ rfl hentered hrecord

/-- How it ends to look for the record of an order. -/
def Provided (s : Service) (named : String → Prop) :
    Ending State (List String) TaskRecord Stance :=
  fun result φ before now => match result with
    | .ok r => r.taskId ≠ "" ∧ Moves s named φ before (.silent (some r.taskId)) now ∧
      now.2.tasks.get? r.taskId = some r
    | .error _ => Moves s named φ before (.silent none) now

theorem keeps_submit
    (hmoves : Moves s named φ before (.silent (order.taskId.filter (!·.isEmpty))) now) :
    (submit workflowId order).Keeps (climate s named) (callContract s named name)
      (Provided s named) φ before now := by
  refine Program.keeps_bind.mpr (keeps_require ?_)
  rintro (fault | w)
  · exact hmoves.release
  · refine Program.keeps_bind.mpr (keeps_chooseId hmoves fun id y hid hmoves => ?_)
    exact keeps_enter hmoves fun r y htask hmoves hrecord => ⟨htask ▸ hid, hmoves, hrecord⟩

theorem keeps_recordFor
    (hmoves : Moves s named φ before (.silent (order.taskId.filter (!·.isEmpty))) now) :
    (recordFor workflowId order).Keeps (climate s named) (callContract s named name)
      (Provided s named) φ before now := by
  unfold recordFor Program.state
  simp only [Program.bind_eq_bind, Program.bind, Program.Keeps]
  split
  · rename_i r hfound
    obtain ⟨id, hid, hrecord⟩ := Option.bind_eq_some_iff.mp hfound
    obtain ⟨-, rfl⟩ := Table.mem_of_get? hrecord
    rw [hid] at hmoves
    exact ⟨by simpa using (Option.filter_eq_some_iff.mp hid).2, hmoves, hrecord⟩
  · exact keeps_submit hmoves

def Prepared (s : Service) (named : String → Prop) :
    Ending State (List String) (TaskRecord × Workflow × TaskContext) Stance :=
  fun result φ before now => match result with
    | .ok (r, _, context) => context.taskId = r.taskId ∧
      Moves s named φ before (.silent (some r.taskId)) now ∧
      now.2.tasks.get? r.taskId = some r
    | .error _ => Moves s named φ before (.silent none) now

theorem keeps_prepare
    (hmoves : Moves s named φ before (.silent (order.taskId.filter (!·.isEmpty))) now) :
    (prepare workflowId order).Keeps (climate s named) (callContract s named name)
      (Prepared s named) φ before now := by
  refine Program.keeps_bind.mpr (keeps_require ?_)
  rintro (fault | w)
  · exact hmoves.release
  refine Program.keeps_bind.mpr ((keeps_recordFor hmoves).mono ?_)
  rintro (fault | r) φ before now hend
  · exact hend
  obtain ⟨hne, hmoves, hrecord⟩ := hend
  have hchosen : chooseId (some r.taskId) = .done r.taskId := by
    simp [chooseId, Option.filter, hne]
  refine Program.keeps_bind.mpr (Program.keeps_bind.mpr ?_)
  rw [hchosen]
  refine Program.keeps_ofResult.mpr ?_
  cases hbind : (w.bind r.taskId order.request).toResult with
  | error fault => exact hmoves.release
  | ok context => exact ⟨Workflow.taskId_of_bind hbind, hmoves, hrecord⟩

/-! ## Calls -/

/-- A call that reports a cancelled execution leaves its task as it is. -/
def Reported (s : Service) (named : String → Prop) : Ending State (List String) Report Stance :=
  fun result φ before now => ∃ φ', Moves s named φ before φ' now ∧
    Ends φ' (result.map Outcome.reported)

theorem reported_silent {result : Result Report}
    (hresult : ∀ r, result ≠ .ok (.executed r (.error .cancelled)))
    (hmoves : Moves s named φ before (.silent none) now) :
    Reported s named result φ before now := by
  refine ⟨.silent none, hmoves, fun r heq => ?_⟩
  cases result with
  | error fault => cases heq
  | ok report =>
    cases heq
    exact hresult r rfl

section

variable (hpauses : ∀ c ∈ s.coordinator, c.channel = busChannel)
include hpauses

theorem keeps_track {w : Workflow} {context : TaskContext} {next : Execution → Activity Report}
    (htask : context.taskId = r.taskId)
    (hmoves : Moves s named φ before (.silent (some r.taskId)) now)
    (hrecord : now.2.tasks.get? r.taskId = some r)
    (hnext : ∀ e φ x y, Moves s named φ x (.silent none) y →
      (next e).Keeps (climate s named) (callContract s named name) (Reported s named) φ x y) :
    (s.track r w context next).Keeps (climate s named) (callContract s named name)
      (Reported s named) φ before now := by
  refine Program.keeps_bind.mpr (Program.keeps_attempt.mpr
    ((keeps_execute hpauses w context htask hrecord hmoves).mono ?_))
  rintro (fault | e) φ before now hmoves
  · unfold Finished at hmoves
    split at hmoves
    · rename_i hcancelled
      cases hcancelled
      exact ⟨.broken r, hmoves, rfl⟩
    · rename_i hspared
      refine reported_silent (fun r' heq => hspared ?_) hmoves
      cases heq
      rfl
  · exact hnext e φ before now hmoves

theorem keeps_reportEach (inputs : List Json) (items : List BatchItem)
    (hmoves : Moves s named φ before (.silent none) now) :
    (s.reportEach workflowId order inputs items).Keeps (climate s named)
      (callContract s named name) (Reported s named) φ before now := by
  induction inputs generalizing items φ before now with
  | nil => exact reported_silent (fun _ => nofun) hmoves
  | cons input rest ih =>
    refine Program.keeps_bind.mpr ((keeps_prepare hmoves).mono ?_)
    rintro (fault | ⟨r, w, context⟩) φ before now hend
    · exact reported_silent (fun _ => nofun) hend
    · obtain ⟨htask, hmoves, hrecord⟩ := hend
      exact keeps_track hpauses htask hmoves hrecord fun e φ x y hmoves => ih _ hmoves

theorem keeps_report (call : Call)
    (hmoves : Moves s named φ before (.silent (Request.call call).taskId?) now) :
    (call.report s).Keeps (climate s named) (callContract s named name) (Reported s named) φ before
      now := by
  have hexecuted : ∀ (r : TaskRecord) (e : Execution) (φ : Stance) (x y : Site),
      Moves s named φ x (.silent none) y →
      (pure (.executed r (.ok e)) : Activity Report).Keeps (climate s named)
        (callContract s named name) (Reported s named) φ x y :=
    fun r e φ x y hmoves => reported_silent (fun _ => nofun) hmoves
  cases call with
  | submit workflowId order =>
    refine Program.keeps_bind.mpr ((keeps_submit hmoves).mono ?_)
    rintro (fault | r) φ before now hend
    · exact reported_silent (fun _ => nofun) hend
    · exact reported_silent (fun _ => nofun) hend.2.1.release
  | run workflowId order =>
    refine Program.keeps_bind.mpr ((keeps_prepare hmoves).mono ?_)
    rintro (fault | ⟨r, w, context⟩) φ before now hend
    · exact reported_silent (fun _ => nofun) hend
    · obtain ⟨htask, hmoves, hrecord⟩ := hend
      exact keeps_track hpauses htask hmoves hrecord (hexecuted r)
  | runWorkflow w context =>
    refine Program.keeps_bind.mpr (keeps_enter hmoves fun r y htask hmoves hrecord => ?_)
    exact keeps_track hpauses htask.symm hmoves hrecord (hexecuted r)
  | runBatch workflowId inputs order =>
    unfold Call.report
    dsimp only
    split
    · exact reported_silent (fun _ => nofun) hmoves
    · refine Program.keeps_bind.mpr (keeps_require ?_)
      rintro (fault | w)
      · exact reported_silent (fun _ => nofun) hmoves
      · exact keeps_reportEach hpauses inputs [] hmoves

end

/-! ## Resuming and cancelling -/

variable {x : Site}

theorem keeps_looking {p : Activity α} {fine : Result α → Prop}
    {post : Ending State (List String) α Stance} (hp : p.Calm (climate s named) (Leaves s) fine)
    (hpost : ∀ result φ before now, Leaves s before now → Orderly s now.2 →
      post result φ before now)
    (hleaves : Leaves s before now) (horderly : Orderly s now.2) :
    p.Keeps (climate s named) (requestContract s named) post φ before now := by
  have hmoves : (requestContract s named).moves φ before (.silent none) now := ⟨hleaves, horderly⟩
  have hstable : ∀ φ before x y, (requestContract s named).moves φ before (.silent none) x →
      Leaves s x y → (requestContract s named).moves φ before (.silent none) y :=
    fun _ _ _ _ hmoves hleaves => ⟨hmoves.1.trans hleaves, hleaves.orderly hmoves.2⟩
  have hstays : ∀ x, (requestContract s named).rely (.silent none) x →
      (requestContract s named).moves (.silent none) x (.silent none) x :=
    fun _ hgood => ⟨.refl, hgood.orderly⟩
  exact hp.keeps (fun _ => .refl) hstable (fun _ => trivial) hstays
    (fun _ _ _ _ _ hmoves => hpost _ _ _ _ hmoves.1 hmoves.2) hmoves

theorem accepts_of_accept {t u : State} {h : Handle} {board : Board} {time : String}
    (horderly : Orderly s t) (haccept : t.board.accept? h = some board)
    (htakes : Takes s.progress [⟨h.taskId, .running, h.stepIndex, h.totalSteps,
      "Challenge resolved; resuming", time⟩] { t with board } u) : Accepts s h t u := by
  obtain ⟨hmem, -, rfl⟩ := Board.accept?_eq_some haccept
  have horderly' := horderly.withBoard ((t.board.settle h.signal .given).remove h)
  have hsubset : ((t.board.settle h.signal .given).remove h).handles ⊆ t.board.handles :=
    fun h' hmem' => (Board.mem_remove.mp hmem').1
  refine ⟨hmem, fun h' hmem' _ => ?_, fun r hr _ => ?_, ?_, fun taskId hne => ?_⟩
  · rw [htakes.board] at hmem'
    exact hsubset hmem'
  · rw [htakes.tasks]
    exact hr
  · have hopen : Status.running.isFinal = false := rfl
    exact unfinished_of_told hopen
      ((horderly'.latest?_takes htakes).imp_left fun hlatest => ⟨_, rfl, hlatest⟩)
  · have hremoved : Beside s taskId t
        { t with board := (t.board.settle h.signal .given).remove h } :=
      .of_record hsubset rfl rfl
    exact hremoved.trans (horderly'.beside_takes htakes hne)

theorem keeps_resume {c : Coordinator} (hc : c.channel = busChannel) (taskId : String)
    (horderly : Orderly s x.2) :
    ((c.resume taskId).bind fun refusal => .done (Outcome.resumed refusal)).Keeps
      (climate s named) (requestContract s named) (requestContract s named).closes (.silent none)
      x x := by
  have hresumed : ∀ (answer : Option Refusal) (report : Report),
      (.ok (.resumed answer) : Result Outcome) ≠ .ok (.reported report) := fun _ _ => nofun
  have hfault : ∀ (fault : Fault) (report : Report),
      (.error fault : Result Outcome) ≠ .ok (.reported report) := fun _ _ => nofun
  have hrefuse : ∀ (answer : Option Refusal) (φ : Stance) (before now : Site),
      Leaves s before now → Orderly s now.2 →
      (requestContract s named).closes (.ok (.resumed answer)) φ before now :=
    fun answer _ _ _ hleaves horderly => ⟨.silent none, ⟨hleaves, horderly⟩, hresumed answer⟩
  refine Program.keeps_bind.mpr ?_
  unfold Coordinator.resume Program.state
  simp only [Program.bind_eq_bind, Program.bind, Program.Keeps]
  split
  · exact hrefuse _ _ _ _ .refl horderly
  · rename_i h hcheck
    obtain rfl := (Board.mem_of_handle? (Board.resumable?_eq_some_iff.mp hcheck).1).2
    have htolerates : (climate s named).Tolerates (Leaves s) := tolerates_leaves
    have hlook : (Upkeep.inside htolerates spares_climate).Kept (c.detector.isActive h.page) :=
      c.detector.kept_isActive h.page
    refine Program.keeps_bind.mpr (keeps_looking hlook.calm ?_ .refl horderly)
    rintro (fault | active) φ before now hleaves horderly
    · exact ⟨.silent none, ⟨hleaves, horderly⟩, hfault fault⟩
    cases active with
    | true => exact hrefuse _ _ _ _ hleaves horderly
    | false =>
      simp only [Bool.false_eq_true, ↓reduceIte, Program.Keeps]
      split
      · exact hrefuse _ _ _ _ hleaves horderly
      · rename_i board haccept
        refine Program.keeps_modify_bind.mpr (Program.keeps_bind.mpr ?_)
        rw [hc]
        have htell := atOnce_tell named (x := (now.1, { now.2 with board }))
          (horderly.withBoard board) h.taskId .running h.stepIndex h.totalSteps
          "Challenge resolved; resuming"
        refine (htell.mono ?_).keeps
        rintro _ y ⟨⟨rfl, time, htakes⟩, hissued⟩
        refine ⟨.accepted, ⟨List.Subset.trans hleaves.issued hissued, ?_, h, ?_⟩, hresumed none⟩
        · exact (horderly.withBoard board).takes htakes
        · exact .trans hleaves.beside (accepts_of_accept horderly haccept htakes)

/-! ## All requests -/

theorem keeps_request (hpauses : ∀ c ∈ s.coordinator, c.channel = busChannel) (request : Request)
    (hgood : Good s named (contract s named request).start x) :
    (request.run s).Keeps (climate s named) (contract s named request)
      (contract s named request).closes (contract s named request).start x x := by
  cases request with
  | call c =>
    refine Program.keeps_bind.mpr ((keeps_report hpauses c (Moves.refl hgood)).mono ?_)
    rintro (fault | report) φ before now ⟨φ', hmoves, hends⟩
    · exact ⟨φ', hmoves, hends⟩
    · exact ⟨φ', hmoves, hends⟩
  | resume taskId =>
    unfold Request.run Service.resume
    cases hcoordinator : s.coordinator with
    | none => exact ⟨.silent none, ⟨.refl, hgood.orderly⟩, fun _ => nofun⟩
    | some c => exact keeps_resume (hpauses c hcoordinator) taskId hgood.orderly
  | cancel taskId =>
    have hleaves : Leaves s x (x.1, { x.2 with board := (x.2.board.cancel taskId).2 }) :=
      .of_same (fun _ => (·)) rfl Board.handles_cancel_subset rfl
    exact ⟨.silent none, ⟨hleaves, hleaves.orderly hgood.orderly⟩, fun _ => nofun⟩

end Pageflow.Service.Agreement
