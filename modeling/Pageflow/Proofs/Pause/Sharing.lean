import Pageflow.Proofs.Pause.Consistent
import Pageflow.Proofs.Workflow.Results
import Pageflow.Proofs.Workflow.Frame

/-! What an execution does to the board of paused tasks, turn by turn, while others share the board.
It begins and ends pauses of its own. When it hands its page back it cancels whichever pause its
task has. -/
namespace Pageflow.Pause.Sharing
open Browser

/-- How an execution, or a request to resume one, stands to the board. -/
inductive Stance where
  /-- The execution has no pause of its own on. -/
  | going
  /-- It has begun a pause, and not looked at the signal since. -/
  | paused (h : Handle)
  /-- It has withdrawn the signal itself and is about to end the pause. -/
  | leaving (h : Handle)
  /-- It has found the signal of its pause withdrawn and is about to hand its page back. -/
  | broken (h : Handle)
  /-- It has handed its page back, perhaps after a pause of which the signal had been withdrawn. -/
  | handedBack (lost : Option Handle)
  /-- It has got no page, or could not make it ready. -/
  | unpaged
  /-- It is a request to resume a task. -/
  | asking

/-- What an execution does to the board for a pause of its own, or without one. -/
inductive Own (taskId : String) : Stance → Board → Stance → Board → Prop where
  | stay (φ : Stance) (b : Board) : Own taskId φ b φ b
  | begin {page : Option PageRef} {stepIndex totalSteps : Int} {b b' : Board} {h : Handle}
    (hbegin : b.begin? taskId page stepIndex totalSteps = some (h, b')) :
    Own taskId .going b (.paused h) b'
  | resume {h : Handle} {b : Board} (hgiven : b.signal h.signal = .given) :
    Own taskId (.paused h) b .going (b.remove h)
  | lose {h : Handle} {b : Board} (hwithdrawn : b.signal h.signal = .withdrawn) :
    Own taskId (.paused h) b (.broken h) (b.remove h)
  | withdraw {h : Handle} {b : Board} (hwaiting : b.signal h.signal = .waiting) :
    Own taskId (.paused h) b (.leaving h) (b.settle h.signal .withdrawn)
  | leave (h : Handle) (b : Board) : Own taskId (.leaving h) b .going (b.remove h)

/-- What a turn of an execution does to the board. In the last turn that has to do with the board
the pause of the task is cancelled, whoever has begun it. -/
inductive Turns (taskId : String) (φ : Stance) (b : Board) : Stance → Board → Prop where
  | own {φ' : Stance} {b' : Board} (hown : Own taskId φ b φ' b') : Turns taskId φ b φ' b'
  | unpaged {b' : Board} (hown : Own taskId φ b .going b') : Turns taskId φ b .unpaged b'
  | handBack {b' : Board} (hown : Own taskId φ b .going b') :
    Turns taskId φ b (.handedBack none) (b'.cancel taskId).2
  | handBackBroken {h : Handle} {b' : Board} (hown : Own taskId φ b (.broken h) b') :
    Turns taskId φ b (.handedBack (some h)) (b'.cancel taskId).2

/-- With what an execution ends where it stands. -/
def Stance.Ends : Stance → Result Execution → Prop
  | .handedBack (some _), result => result = .error .cancelled
  | .handedBack none, result => Uncancelled result
  | .unpaged, result => Uncancelled result ∧
    ∀ e, result = .ok e → ∃ f, e.failure = some f ∧ f.stepIndex = none
  | _, _ => False

inductive Request where
  | execute (r : Runner) (w : Workflow) (context : TaskContext)
  | resume (c : Coordinator) (taskId : String)

namespace Request

def run : Request → Activity (Option Execution)
  | .execute r w context => do return some (← r.execute w context)
  | .resume c taskId => do
    let _ ← (Pause.Request.resume taskId).run c
    return none

/-- What a request promises; `taskId` is the task that is executed. -/
def executing (taskId : String) : Contract State Ask Unit (Option Execution) Stance where
  start := .going
  rely _ _ := True
  rests _ _ := True
  moves φ x φ' y := Turns taskId φ x.2.board φ' y.2.board
  ends φ result := ∃ result', result = some <$> result' ∧ φ.Ends result'

/-- Asking to resume a task does no more to the board than to take off a pause that it resumes. -/
def resuming : Contract State Ask Unit (Option Execution) Stance where
  start := .asking
  rely _ _ := True
  rests _ _ := True
  moves φ x φ' y := φ' = φ ∧
    (y.2.board = x.2.board ∨ ∃ h, x.2.board.accept? h = some y.2.board)
  ends _ _ := True

def contract : Request → Contract State Ask Unit (Option Execution) Stance
  | .execute _ _ context => executing context.taskId
  | .resume _ _ => resuming

end Request

/-- A runner that shares the board: its channels are the event bus or none, and getting a page and
handing it back leave the board alone. -/
structure Shares (r : Runner) : Prop where
  coordinator : r.coordinator.isSome = true
  pauses : ∀ c ∈ r.coordinator, c.Announces
  channel : r.channel = none ∨ r.channel = Progress.busChannel
  acquire : r.acquire.Calm climate SameBoard Uncancelled
  release : ∀ page, (r.release page).Calm climate SameBoard (· = .ok ())

section

variable {taskId : String} {α : Type} {stop φ : Stance} {before now : Unit × State}
  {b b' : Board} {h : Handle} {r : Runner} {run : Run}

theorem Turns.own_of_going (h : Turns taskId φ b .going b') : Own taskId φ b .going b' := by
  cases h with
  | own hown => exact hown

theorem Turns.eq_of_going (h : Turns taskId .going b .going b') : b' = b := by
  cases h with
  | own hown =>
    cases hown
    rfl

theorem Turns.own_of_broken (hturns : Turns taskId φ b (.broken h) b') :
    Own taskId φ b (.broken h) b' := by
  cases hturns with
  | own hown => exact hown

/-- Executions stay where they stand. -/
def staying (taskId : String) (stop : Stance) : Upkeep Unit (Option Execution) Stance where
  env := climate
  contract := Request.executing taskId
  holds φ before now := Turns taskId φ before.2.board stop now.2.board
  cancels := False
  spares _ := spares_climate
  answered honce := honce.elim
  stopped _ hholds := ⟨stop, hholds, trivial, fun _ _ _ _ _ => .own (.stay stop _)⟩

theorem follows_staying : Network.Follows (staying taskId stop) := fun _ _ _ _ => id

theorem keeps_calm {p : Activity α} {fine : Result α → Prop} {post : Ending State Unit α Stance}
    (hp : p.Calm climate SameBoard fine)
    (hpost : ∀ result φ before now, fine result →
      Turns taskId φ before.2.board stop now.2.board → post result φ before now)
    (hturns : Turns taskId φ before.2.board stop now.2.board) :
    p.Keeps climate (Request.executing taskId) post φ before now := by
  refine hp.keeps (fun _ => rfl) (fun φ before x y hturns hsame => ?_) (fun _ => trivial)
    (fun x _ => Turns.own (.stay stop _)) hpost hturns
  change Turns taskId φ before.2.board stop y.2.board
  rwa [show y.2.board = x.2.board from hsame]

theorem kept_of_calm {p : Activity α} {fine : Result α → Prop}
    (hp : p.Calm climate SameBoard fine) (hfine : ∀ result, fine result → Uncancelled result) :
    (staying taskId stop).Kept p :=
  fun _ _ _ hturns => keeps_calm hp (fun result _ _ _ hend hturns =>
    ⟨hturns, Upkeep.fine_of_uncancelled (hfine result hend)⟩) hturns

theorem calm_announce {channel : Progress.Channel}
    (hchannel : channel = none ∨ channel = Progress.busChannel) (taskId : String)
    (status : Progress.Status) (stepIndex totalSteps : Int) (message : String) :
    (Progress.announce channel taskId status stepIndex totalSteps message).Calm climate SameBoard
      (· = .ok ()) :=
  Progress.calm_announce tolerates_sameBoard spares_climate (fun _ _ _ => rfl) hchannel _ _ _ _ _

theorem kept_announce {channel : Progress.Channel}
    (hchannel : channel = none ∨ channel = Progress.busChannel) (id : String)
    (status : Progress.Status) (stepIndex totalSteps : Int) (message : String) :
    (staying taskId stop).Kept (Progress.announce channel id status stepIndex totalSteps message) :=
  kept_of_calm (calm_announce hchannel _ _ _ _ _) (by rintro _ rfl; exact uncancelled_ok ())

/-! ## Pauses -/

/-- The execution has lost its pause in this turn. -/
def Broken (taskId : String) (φ : Stance) (before now : Unit × State) : Prop :=
  ∃ h, Turns taskId φ before.2.board (.broken h) now.2.board

/-- The execution goes on, unless it has lost its pause: then it is cancelled. -/
def Spared (taskId : String) : Ending State Unit α Stance := fun result φ before now =>
  (result = .error .cancelled → Broken taskId φ before now) ∧
    (Uncancelled result → Turns taskId φ before.2.board .going now.2.board)

variable {c : Coordinator}

theorem keeps_withdraw {fault : Fault} {post : Ending State Unit Unit Stance}
    (hfault : fault.isCancelled = false) (hwaiting : now.2.board.signal h.signal = .waiting)
    (hpost : ∀ fault later, fault.isCancelled = false →
      post (.error fault) (.leaving h) later later) :
    ((withdraw h.signal).bind fun _ => .fail fault : Activity Unit).Keeps climate
      (Request.executing taskId) post (.paused h) now now := by
  refine ⟨False.elim, fun _ => ⟨.leaving h, .own (.withdraw hwaiting), trivial,
    fun later passed w _ hpassed => ?_⟩⟩
  cases passed with
  | ok => exact hpost fault later hfault
  | error fault' => exact hpost fault' later (Uncancelled.not_isCancelled hpassed)

/-- Having begun, a pause ends with its signal given, or withdrawn by itself or by others. -/
theorem keeps_awaitSignal (hturns : Turns taskId φ before.2.board (.paused h) now.2.board) :
    ((c.awaitSignal h).ensure (changeBoard fun b => b.remove h)).Keeps climate
      (Request.executing taskId) (Spared taskId) φ before now := by
  rw [Program.keeps_ensure]
  refine ⟨False.elim, fun _ => ⟨.paused h, hturns, trivial, fun later reply w _ hreply => ?_⟩⟩
  have hleaves : ∀ (fault : Fault) (later : Unit × State), fault.isCancelled = false →
      Spared taskId (.error fault : Result Unit) (.leaving h) later
        (later.1, { later.2 with board := later.2.board.remove h }) := by
    refine fun fault later hfault => ⟨?_, fun _ => .own (.leave h _)⟩
    rintro ⟨⟩
    cases hfault
  unfold Program.state
  simp only [Program.bind_eq_bind, Program.bind, Program.Keeps]
  split
  · exact ⟨fun heq => (by cases heq), fun _ => .own (.resume ‹_›)⟩
  · exact ⟨fun _ => ⟨h, .own (.lose ‹_›)⟩, fun hspared => absurd rfl hspared⟩
  · exact keeps_withdraw rfl ‹_› hleaves
  · exact keeps_withdraw (Uncancelled.not_isCancelled hreply) ‹_› hleaves

theorem keeps_pause (hc : c.Announces) (page : Option PageRef) (stepIndex totalSteps : Int)
    (hsame : now.2.board = before.2.board) :
    (c.pause taskId page stepIndex totalSteps).Keeps climate (Request.executing taskId)
      (Spared taskId) .going before now := by
  unfold Coordinator.pause Program.state
  simp only [Program.bind_eq_bind, Program.bind, Program.Keeps]
  split
  · refine ⟨fun heq => (by cases heq), fun _ => ?_⟩
    rw [hsame]
    exact .own (.stay _ _)
  · rename_i h board hbegin
    rw [hsame] at hbegin
    refine Program.keeps_modify_bind.mpr (Program.keeps_bind.mpr (keeps_calm
      (calm_announce hc _ _ _ _ _) ?_ (.own (.begin hbegin))))
    rintro _ φ before now rfl hturns
    exact keeps_awaitSignal hturns

/-- Others may have their turn while the page is looked at, and a pause begins after that. -/
theorem breaks_look (hc : c.Announces) (page : PageRef) (stepIndex totalSteps : Int) :
    (staying taskId .going).Breaks (Broken taskId)
      (c.checkpoint taskId (some page) stepIndex totalSteps) := by
  intro φ before now hturns
  have hcalm : (c.detector.inspect (some page)).Calm climate SameBoard Uncancelled :=
    (c.detector.kept_inspect (some page) :
      (Upkeep.inside tolerates_sameBoard spares_climate).Kept _).calm
  refine Program.keeps_bind.mpr (hcalm.keeps_waiting id (fun _ => rfl)
    (fun φ before x y hturns hsame => ?_) (fun _ => trivial)
    (fun x _ => Turns.own (.stay .going _)) ?_ hturns)
  · change Turns taskId φ before.2.board .going y.2.board
    rwa [show y.2.board = x.2.board from hsame]
  rintro (fault | d) before now hspared hturns
  · exact ⟨fun heq => absurd (by cases heq; rfl) hspared, fun _ => hturns⟩
  dsimp only
  split
  · refine Program.keeps_bind.mpr ((keeps_pause hc _ _ _ (Turns.eq_of_going hturns)).mono ?_)
    rintro (fault | _) φ before now hend
    · exact ⟨fun heq => hend.1 (by cases heq; rfl), fun hspared => hend.2 hspared.error⟩
    · exact ⟨nofun, fun _ => hend.2 (uncancelled_ok ())⟩
  · exact ⟨nofun, fun _ => hturns⟩

/-! ## Executions -/

theorem breaks_performSteps (hr : Shares r) (start : Double) (steps : List Step) :
    (staying run.taskId .going).Breaks (Broken run.taskId)
      (r.performSteps run start 0 {} steps) :=
  Runner.breaks_performSteps False.elim (fun c hc _ => breaks_look (hr.pauses c hc) _ _ _)
    (fun _ _ _ => kept_announce hr.channel _ _ _ _ _) start 0 {} steps

/-- Handing a page back never fails. -/
theorem keeps_handBack (hr : Shares r) {lost : Option Handle} {post : Ending State Unit Unit Stance}
    (hover : ∀ {φ : Stance} {b b' : Board}, Turns run.taskId φ b stop b' →
      Turns run.taskId φ b (.handedBack lost) (b'.cancel run.taskId).2)
    (hturns : Turns run.taskId φ before.2.board stop now.2.board)
    (hpost : ∀ φ before now, Turns run.taskId φ before.2.board (.handedBack lost) now.2.board →
      post (.ok ()) φ before now) :
    (r.handBack run).Keeps climate (Request.executing run.taskId) post φ before now := by
  refine Program.keeps_bind.mpr (keeps_calm (Network.calm_detach tolerates_sameBoard spares_climate
    (fun _ _ => rfl) _) ?_ hturns)
  rintro _ φ before now rfl hturns
  dsimp only
  rw [if_pos hr.coordinator]
  change (r.release run.page).Keeps climate (Request.executing run.taskId) post φ before
    (now.1, { now.2 with board := (now.2.board.cancel run.taskId).2 })
  refine keeps_calm (hr.release run.page) ?_ (hover hturns)
  rintro _ φ before now rfl
  exact hpost φ before now

/-- How it ends to run the steps on a page. -/
def Paged (taskId : String) : Ending State Unit α Stance := fun result φ before now =>
  match result with
  | .ok _ => Turns taskId φ before.2.board (.handedBack none) now.2.board
  | .error fault =>
    (fault = .cancelled ∧ ∃ h, Turns taskId φ before.2.board (.handedBack (some h)) now.2.board) ∨
    fault ≠ .cancelled ∧ ∃ stop, (stop = .handedBack none ∨ stop = .unpaged) ∧
      Turns taskId φ before.2.board stop now.2.board

theorem keeps_onPage (hr : Shares r) (run : Run) (start : Double) (steps : List Step)
    (hturns : Turns run.taskId φ before.2.board .going now.2.board) :
    (r.onPage run start steps).Keeps climate (Request.executing run.taskId) (Paged run.taskId) φ
      before now := by
  have hready : (staying run.taskId .going).Kept (Runner.prepare run) :=
    kept_bind (Network.kept_watch follows_staying _) fun _ =>
      Network.kept_attach follows_staying _
  rw [Runner.onPage_eq]
  refine Program.keeps_bind.mpr ((hready φ before now hturns).mono ?_)
  rintro (fault | _) φ before now ⟨hturns, hfine⟩
  · exact .inr ⟨fun heq => hfine (congrArg Except.error heq), _, .inr rfl,
      .unpaged hturns.own_of_going⟩
  refine Program.keeps_ensure.mpr ((breaks_performSteps hr start steps φ before now hturns).mono ?_)
  rintro result φ before now ⟨hlost, hkept⟩
  by_cases hcancelled : result = .error .cancelled
  · obtain ⟨h, hturns⟩ := hlost hcancelled
    refine keeps_handBack hr (fun hturns => .handBackBroken hturns.own_of_broken) hturns ?_
    intro φ before now hturns
    rw [hcancelled]
    exact .inl ⟨rfl, h, hturns⟩
  · refine keeps_handBack hr (fun hturns => .handBack hturns.own_of_going) (hkept hcancelled) ?_
    intro φ before now hturns
    cases result with
    | ok value => exact hturns
    | error fault =>
      exact .inr ⟨fun heq => hcancelled (congrArg Except.error heq), _, .inl rfl, hturns⟩

theorem keeps_conclude (hr : Shares r) (w : Workflow) (context : TaskContext) (startedAt : Int)
    (start : Double) (failure : Option Failure) (g : Gathered)
    (hturns : Turns taskId φ before.2.board stop now.2.board) :
    (r.conclude w context startedAt start failure g).Keeps climate (Request.executing taskId)
      (fun result φ before now => Turns taskId φ before.2.board stop now.2.board ∧
        Uncancelled result ∧ ∀ e, result = .ok e → e.failure = failure) φ before now := by
  have hreport : (staying taskId stop).Kept
      (r.report context.taskId (w.resolve context).length failure) := by
    cases failure with
    | none => exact kept_announce hr.channel _ _ _ _ _
    | some f => exact kept_announce hr.channel _ _ _ _ _
  have hfault : ∀ {β : Type} {fault : Fault}, (staying taskId stop).Fine (.error fault : Result β) →
      Uncancelled (.error fault : Result Execution) ∧
        ∀ e, (.error fault : Result Execution) = .ok e → e.failure = failure :=
    fun hfine => ⟨fun heq => hfine.error heq, fun e he => by cases he⟩
  have helapsed : (staying taskId stop).Kept Activity.elapsed := Activity.kept_elapsed
  have hnow : (staying taskId stop).Kept Activity.now := Activity.kept_now
  refine Program.keeps_bind.mpr ((helapsed φ before now hturns).mono ?_)
  rintro (fault | stopped) φ before now ⟨hturns, hfine⟩
  · exact ⟨hturns, hfault hfine⟩
  refine Program.keeps_bind.mpr ((hnow φ before now hturns).mono ?_)
  rintro (fault | completedAt) φ before now ⟨hturns, hfine⟩
  · exact ⟨hturns, hfault hfine⟩
  refine Program.keeps_bind.mpr ((hreport φ before now hturns).mono ?_)
  rintro (fault | _) φ before now ⟨hturns, hfine⟩
  · exact ⟨hturns, hfault hfine⟩
  · refine ⟨hturns, uncancelled_ok _, ?_⟩
    rintro _ ⟨⟩
    rfl

/-- How an execution ends where it stands. -/
def Executed (taskId : String) : Ending State Unit Execution Stance := fun result φ before now =>
  ∃ stop, Turns taskId φ before.2.board stop now.2.board ∧ stop.Ends result

theorem ends_unpaged {fault : Fault} (hspared : fault ≠ .cancelled) :
    Stance.unpaged.Ends (.error fault) :=
  ⟨fun heq => hspared (Except.error.inj heq), fun e he => by cases he⟩

/-- An execution that fails before it has a page. -/
theorem executed_of_fine {fault : Fault}
    (hturns : Turns taskId φ before.2.board .going now.2.board)
    (hfine : (staying taskId .going).Fine (.error fault : Result α)) :
    Executed taskId (.error fault) φ before now :=
  ⟨.unpaged, .unpaged hturns.own_of_going,
    ends_unpaged fun heq => hfine (congrArg Except.error heq)⟩

theorem keeps_execute (hr : Shares r) (w : Workflow) (context : TaskContext) (x : Unit × State) :
    (r.execute w context).Keeps climate (Request.executing context.taskId)
      (Executed context.taskId) .going x x := by
  have hnow : (staying context.taskId .going).Kept Activity.now := Activity.kept_now
  have helapsed : (staying context.taskId .going).Kept Activity.elapsed := Activity.kept_elapsed
  rw [Runner.execute_eq]
  refine Program.keeps_bind.mpr ((hnow .going x x (.own (.stay _ _))).mono ?_)
  rintro (fault | startedAt) φ before now ⟨hturns, hfine⟩
  · exact executed_of_fine hturns hfine
  refine Program.keeps_bind.mpr ((helapsed φ before now hturns).mono ?_)
  rintro (fault | start) φ before now ⟨hturns, hfine⟩
  · exact executed_of_fine hturns hfine
  refine Program.keeps_bind.mpr (Program.keeps_attempt.mpr (keeps_calm hr.acquire ?_ hturns))
  rintro (fault | page) φ before now hspared hturns
  · have hended : (r.conclude w context startedAt start (some (Runner.sessionFailure fault))
        {}).Keeps climate (Request.executing context.taskId) (Executed context.taskId) φ before
          now := by
      refine (keeps_conclude hr w context startedAt start _ {}
        (.unpaged hturns.own_of_going)).mono ?_
      rintro result φ before now ⟨hturns, hspared, hfailure⟩
      exact ⟨.unpaged, hturns, hspared, fun e he => ⟨_, hfailure e he, rfl⟩⟩
    cases fault with
    | cancelled => exact absurd rfl hspared
    | _ => exact hended
  · refine Program.keeps_bind.mpr ((keeps_onPage hr ⟨context.taskId, page, _⟩ start _
      hturns).mono ?_)
    rintro (fault | ⟨failure, g⟩) φ before now hpaged
    · rcases hpaged with ⟨rfl, h, hturns⟩ | ⟨hspared, stop, rfl | rfl, hturns⟩
      · exact ⟨_, hturns, rfl⟩
      · exact ⟨_, hturns, fun heq => hspared (Except.error.inj heq)⟩
      · exact ⟨_, hturns, ends_unpaged hspared⟩
    · refine (keeps_conclude hr w context startedAt start failure g hpaged).mono ?_
      exact fun result φ before now hend => ⟨_, hend.1, hend.2.1⟩

theorem asking_of_turns {ψ ψ' : Pause.Phase} (hpause : ψ.pause? = none)
    (hturns : Pause.Turns (.resume taskId) ψ b ψ' b') :
    ψ'.pause? = none ∧ (b' = b ∨ ∃ h, b.accept? h = some b') := by
  cases hturns with
  | check | checkOn | tell | turnAway | refuse => exact ⟨rfl, .inl rfl⟩
  | acceptUnasked _ haccept | accept haccept => exact ⟨rfl, .inr ⟨_, haccept⟩⟩
  | wait | wake | giveUp | withdraw | leave => cases hpause

/-- What the requests of an ensemble need: the executions share the board, and the requests to
resume announce on the bus or nowhere. -/
def Request.Shares : Request → Prop
  | .execute r _ _ => Sharing.Shares r
  | .resume c _ => c.Announces

theorem keeps_request {request : Request} (hshares : request.Shares) (x : Unit × State) :
    request.run.Keeps climate request.contract request.contract.closes request.contract.start x
      x := by
  cases request with
  | execute r w context =>
    refine Program.keeps_bind.mpr ((keeps_execute hshares w context x).mono ?_)
    rintro (fault | execution) φ before now ⟨stop, hturns, hends⟩
    · exact ⟨stop, hturns, .error fault, rfl, hends⟩
    · exact ⟨stop, hturns, .ok execution, rfl, hends⟩
  | resume c taskId =>
    refine Program.keeps_bind.mpr (Program.Keeps.transport (fun _ => Stance.asking)
      (Phase.pause? · = none) (fun _ _ _ => trivial) (fun _ _ _ => trivial)
      (fun ψ x ψ' y hpause hturns => ?_) ?_ rfl (Coordinator.keeps_resume hshares taskId x))
    · obtain ⟨hpause', hboard⟩ := asking_of_turns hpause hturns
      exact ⟨hpause', rfl, hboard⟩
    · rintro (fault | answer) ψ before now hpause ⟨ψ', hturns, -⟩
      · exact ⟨.asking, ⟨rfl, (asking_of_turns hpause hturns).2⟩, trivial⟩
      · exact ⟨.asking, ⟨rfl, (asking_of_turns hpause hturns).2⟩, trivial⟩

end
end Pageflow.Pause.Sharing
