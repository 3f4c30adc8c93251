import Pageflow.Proofs.Service.Calls
import Pageflow.Proofs.Service.Ownership
import Pageflow.Proofs.Workflow.Interference

/-! What an execution does to the tasks, turn by turn. Nothing is cancelled from outside, sinks
and clocks answer at once, and requests to resume or to cancel a pause may come at any time. -/
namespace Pageflow

/-- A fresh id is one that is neither named by a call nor issued before. -/
def Ask.Issued (named : String → Prop) : (q : Ask) → Ask.Reply q → List String → List String → Prop
  | .freshId, id, issued, issued' => id ≠ "" ∧ ¬ named id ∧ id ∉ issued ∧ issued' = id :: issued
  | _, _, issued, issued' => issued' = issued

namespace Service.Agreement
open Browser Pause Progress

inductive Request where
  | call (call : Call)
  | resume (taskId : String)
  | cancel (taskId : String)

inductive Outcome where
  | reported (report : Report)
  | resumed (refusal : Option Refusal)
  | cancelled (was : Bool)

/-- What happens to all else that is shared. -/
structure Elsewhere (s : Service) (x y : State) : Prop where
  tasks : y.tasks = x.tasks
  board : y.board = x.board
  store : y.bus.sink? s.progress = x.bus.sink? s.progress
  once : ∀ taskId, (y.bus.audience taskId).count s.progress =
    (x.bus.audience taskId).count s.progress

/-- Any answers but cancellations, at any time. -/
def climate (s : Service) (named : String → Prop) :
    Climate State Ask Ask.Reply (List String) where
  admits _ _ := True
  atOnce q := q.suspends = false
  answers q x r w := q.Spares r ∧ q.Issued named r x.1 w
  happens x y := y.1 = x.1 ∧ Elsewhere s x.2 y.2

/-- The tasks in hand of a call, from one turn to the next. An execution that was cancelled
leaves its task as it is. -/
def Ends : Stance → Result Outcome → Prop
  | .silent _, result => ∀ r, result ≠ .ok (.reported (.executed r (.error .cancelled)))
  | .broken r, result => result = .ok (.reported (.executed r (.error .cancelled)))
  | _, _ => False

/-- A call that names a task, or none, has no other in hand when it begins. -/
def callContract (s : Service) (named : String → Prop) (taskId : Option String) :
    Contract State Ask (List String) Outcome Stance where
  start := .silent taskId
  rely φ x := Good s named φ x
  rests φ _ := φ.Rests
  moves φ x φ' y := Moves s named φ x φ' y
  ends := Ends

variable {s : Service} {named : String → Prop} {x y : Site} {w w' : List String}

theorem issued_subset {q : Ask} {reply : Ask.Reply q} (h : q.Issued named reply w w') :
    w ⊆ w' := by
  cases q with
  | freshId =>
    obtain ⟨-, -, -, rfl⟩ := h
    exact fun _ hmem => List.mem_cons_of_mem _ hmem
  | _ => exact Eq.symm (h : w' = w) ▸ List.Subset.refl w

theorem leaves_answer {q : Ask} {reply : Ask.Reply q}
    (h : (climate s named).answers q x reply w) : Leaves s x (w, x.2) :=
  .of_same (issued_subset h.2) rfl (fun _ => (·)) rfl

theorem Elsewhere.leaves (h : Elsewhere s x.2 y.2) (hissued : y.1 = x.1) : Leaves s x y where
  issued := hissued ▸ List.Subset.refl _
  orderly horderly := by
    obtain ⟨store, hstore, hsound⟩ := horderly.store
    exact ⟨h.tasks ▸ horderly.tasks, ⟨store, h.store.trans hstore, hsound⟩,
      fun taskId => (h.once taskId).trans (horderly.once taskId)⟩
  beside id := by
    refine ⟨fun _ hmem _ => h.board ▸ hmem, .same (by rw [h.tasks]) ?_⟩
    unfold latest? Bus.latest?
    rw [h.store]

theorem tolerates_leaves : (climate s named).Tolerates (Leaves s) where
  refl _ := .refl
  trans _ _ _ := .trans
  answers _ _ _ _ := leaves_answer

theorem spares_climate : (climate s named).Spares := fun _ _ _ _ hanswer => hanswer.1

theorem tellsAtOnce_climate : TellsAtOnce (climate s named) :=
  ⟨rfl, fun _ _ => rfl, fun _ _ => rfl, fun _ => rfl⟩

/-- What a call keeps up that has come to stand as `φ'` says. -/
def upkeep (s : Service) (named : String → Prop) (taskId : Option String) (φ' : Stance)
    (hrests : φ'.Rests) (cancels : Prop) : Upkeep (List String) Outcome Stance where
  env := climate s named
  contract := callContract s named taskId
  holds φ before now := Moves s named φ before φ' now
  cancels
  spares _ := spares_climate
  answered _ hr hmoves := hmoves.leaves (leaves_answer hr)
  stopped _ hmoves := ⟨φ', hmoves, hrests, fun _ _ _ hgood hr =>
    (Moves.refl hgood).leaves (leaves_answer hr)⟩

section

variable {taskId name : Option String} {φ φ' φ'' stop : Stance} {before now : Site} {α : Type}
  {r : TaskRecord} {told : Bool} {cancels : Prop}

theorem follows_upkeep {hrests : stop.Rests} :
    Network.Follows (upkeep s named name stop hrests cancels) :=
  fun _ _ _ _ hmoves => hmoves.leaves (.of_same (fun _ => (·)) rfl (fun _ => (·)) rfl)

theorem keeps_calm {p : Activity α} {fine : Result α → Prop}
    {post : Ending State (List String) α Stance}
    (hp : p.Calm (climate s named) (Leaves s) fine)
    (hpost : ∀ result φ before now, fine result → Moves s named φ before (.going r told) now →
      post result φ before now) (hmoves : Moves s named φ before (.going r told) now) :
    p.Keeps (climate s named) (callContract s named name) post φ before now := by
  have hgoing : (callContract s named name).moves φ before (.going r told) now := hmoves
  exact hp.keeps (fun _ => .refl) (fun _ _ _ _ => Moves.leaves) (fun _ => trivial)
    (fun _ => Moves.refl) hpost hgoing

theorem keeps_bind_ask {q : Ask} {f : Ask.Reply q → Activity α}
    {post : Ending State (List String) α Stance} (hq : q.suspends = false)
    (hmoves : Moves s named φ before φ' now)
    (hf : ∀ reply w, Moves s named φ before φ' (w, now.2) →
      (f reply).Keeps (climate s named) (callContract s named name) post φ before (w, now.2)) :
    ((Program.ask q .done).bind f).Keeps (climate s named) (callContract s named name) post φ
      before now :=
  ⟨fun _ reply w hanswer => hf reply w (hmoves.leaves (leaves_answer hanswer)),
    fun hlater => absurd hq hlater⟩

/-! ## Telling -/

theorem atOnce_tell (named : String → Prop) (horderly : Orderly s x.2) (id : String)
    (status : Status) (stepIndex totalSteps : Int) (message : String) :
    (announce busChannel id status stepIndex totalSteps message).AtOnce (climate s named) x
      fun result y => (result = .ok () ∧ ∃ time, Takes s.progress
        [⟨id, status, stepIndex, totalSteps, message, time⟩] x.2 y.2) ∧ x.1 ⊆ y.1 :=
  Program.AtOnce.world List.Subset.refl (fun _ _ _ => List.Subset.trans)
    (fun _ _ _ _ hanswer => issued_subset (And.right hanswer))
    (atOnce_announce spares_climate tellsAtOnce_climate (horderly.once id) status stepIndex
      totalSteps message)

/-- Telling takes no turn; the event reaches the store, and others do not notice. -/
theorem keeps_announce {post : Ending State (List String) Unit Stance} {id : String}
    (status : Status) (stepIndex totalSteps : Int) (message : String)
    (hmoves : Moves s named φ before φ' now) (hhand : φ'.task? = some id)
    (hhand' : φ''.task? = some id)
    (hstands : ∀ t : State, t.tasks = now.2.tasks → t.board = now.2.board →
      ((∃ e : Event, e.status = status ∧ s.latest? t id = some e) ∨
        status.isFinal = true ∧ s.latest? t id = none) → φ''.At s t)
    (hpost : ∀ y, Moves s named φ before φ'' y → post (.ok ()) φ before y) :
    (announce busChannel id status stepIndex totalSteps message).Keeps (climate s named)
      (callContract s named name) post φ before now := by
  have horderly := hmoves.good.orderly
  have htell := atOnce_tell named horderly id status stepIndex totalSteps message
  refine (htell.mono ?_).keeps
  rintro _ y ⟨⟨rfl, time, htakes⟩, hissued⟩
  have hwaiting : Moves s named φ before φ' (y.1, now.2) :=
    hmoves.leaves (.of_same hissued rfl (fun _ => (·)) rfl)
  refine hpost y (hwaiting.own hhand (fun other hne => horderly.beside_takes htakes hne)
    (horderly.takes htakes) (hstands y.2 htakes.tasks htakes.board ?_) (.inl hhand'))
  exact (horderly.latest?_takes htakes).imp_left fun hlatest => ⟨_, rfl, hlatest⟩

theorem running_of_tasks {t : State} (h : Running now.2 r) (htasks : t.tasks = now.2.tasks) :
    Running t r := by
  unfold Running
  rw [htasks]
  exact h

theorem unfinished_of_told {t : State} {id : String} {status : Status}
    (hopen : status.isFinal = false)
    (h : (∃ e : Event, e.status = status ∧ s.latest? t id = some e) ∨
      status.isFinal = true ∧ s.latest? t id = none) : Unfinished s t id := by
  rcases h with ⟨e, rfl, hlatest⟩ | ⟨hfinal, -⟩
  · exact ⟨e, hlatest, hopen⟩
  · rw [hopen] at hfinal
    cases hfinal

/-- An event of a run that goes on. -/
theorem keeps_tell {post : Ending State (List String) Unit Stance} (status : Status)
    (stepIndex totalSteps : Int) (message : String) (hopen : status.isFinal = false)
    (hmoves : Moves s named φ before (.going r told) now)
    (hpost : ∀ y, Moves s named φ before (.going r true) y → post (.ok ()) φ before y) :
    (announce busChannel r.taskId status stepIndex totalSteps message).Keeps (climate s named)
      (callContract s named name) post φ before now := by
  obtain ⟨hrunning, hunpaused, -⟩ := hmoves.good.stands
  refine keeps_announce status _ _ _ hmoves rfl rfl (fun t htasks hboard hlatest => ?_) hpost
  exact ⟨running_of_tasks hrunning htasks, fun h hmem => hunpaused h (hboard ▸ hmem),
    unfinished_of_told hopen hlatest⟩

/-- The last event of a run. -/
theorem keeps_close {post : Ending State (List String) Unit Stance} (status : Status)
    (stepIndex totalSteps : Int) (message : String)
    (hmoves : Moves s named φ before (.going r told) now)
    (hpost : ∀ y, Moves s named φ before (.closing r status) y → post (.ok ()) φ before y) :
    (announce busChannel r.taskId status stepIndex totalSteps message).Keeps (climate s named)
      (callContract s named name) post φ before now := by
  obtain ⟨hrunning, hunpaused, -⟩ := hmoves.good.stands
  refine keeps_announce status _ _ _ hmoves rfl rfl (fun t htasks hboard hlatest => ?_) hpost
  refine ⟨running_of_tasks hrunning htasks, fun h hmem => hunpaused h (hboard ▸ hmem),
    fun e he => ?_⟩
  rcases hlatest with ⟨e', rfl, hlatest⟩ | ⟨-, hsilent⟩
  · rw [Option.some.inj (he.symm.trans hlatest)]
  · rw [hsilent] at he
    cases he

/-! ## Pausing -/

variable {c : Coordinator} {h : Handle}

theorem kept_awaitSignal :
    (upkeep s named name (.paused r h) trivial True).Kept (c.awaitSignal h) := by
  have hwithdraw : ∀ fault : Fault, (upkeep s named name (.paused r h) trivial True).Kept
      ((withdraw h.signal).bind fun _ => .fail fault : Activity Unit) := by
    intro fault
    refine kept_bind (kept_bind (kept_modify fun _ _ now hmoves => ?_) fun _ =>
      kept_question fun _ => id) fun _ => kept_fault (γ := Unit) fun _ => trivial
    exact hmoves.leaves (.of_same (fun _ => (·)) rfl (fun _ => (·)) rfl)
  refine kept_ask fun _ _ => kept_read fun _ => ?_
  simp only [Program.bind]
  split
  · exact kept_done ()
  · exact kept_fault (γ := Unit) fun _ => trivial
  all_goals exact hwithdraw _

/-- A pause ends with the run going on as before, or cancelled. -/
theorem kept_pause (hc : c.channel = busChannel) (page : Option PageRef)
    (stepIndex totalSteps : Int) : (upkeep s named name (.going r true) trivial True).Kept
      (c.pause r.taskId page stepIndex totalSteps) := by
  intro φ before now hmoves
  unfold Coordinator.pause Program.state
  simp only [Program.bind_eq_bind, Program.bind, Program.Keeps]
  split
  · exact ⟨hmoves, fun _ => trivial⟩
  · rename_i h board hbegin
    have hpaused := hmoves.pause hbegin
    obtain ⟨hrunning, honly, -⟩ := hpaused.good.stands
    refine Program.keeps_modify_bind.mpr (Program.keeps_bind.mpr ?_)
    rw [hc]
    have hhand : (Stance.paused r h).task? = some r.taskId := rfl
    refine keeps_announce .paused _ _ _ hpaused rfl hhand
      (fun t htasks hboard hlatest => ?_) fun y hmoves => Program.keeps_ensure.mpr ?_
    · exact ⟨running_of_tasks hrunning htasks, fun h' hmem => honly h' (hboard ▸ hmem),
        unfinished_of_told rfl hlatest⟩
    · refine (kept_awaitSignal φ before y hmoves).mono ?_
      exact fun result φ before now hend => ⟨hend.1.unpause, fun _ => trivial⟩

/-! ## Runs -/

variable {runner : Runner} {run : Run}

/-- A part of a run has ended. It was cancelled only if the task has been told of, and then
nothing else can go wrong with it. -/
def Went (s : Service) (named : String → Prop) (r : TaskRecord) :
    Ending State (List String) α Stance :=
  fun result φ before now => ∃ told, Moves s named φ before (.going r told) now ∧
    ∀ fault, result = .error fault → (fault = .cancelled ↔ told = true)

theorem went_ok {value : α} (hmoves : Moves s named φ before (.going r told) now) :
    Went s named r (.ok value) φ before now :=
  ⟨told, hmoves, nofun⟩

section

variable (hpauses : ∀ c ∈ runner.coordinator, c.channel = busChannel)
  (htask : run.taskId = r.taskId)
include hpauses htask

theorem keeps_performStep {index : Nat} (step : Step) (g : Gathered)
    (hmoves : Moves s named φ before (.going r true) now) :
    (runner.performStep run index step g).Keeps (climate s named) (callContract s named name)
      (fun result φ before now => Moves s named φ before (.going r true) now ∧
        ∀ fault, result = .error fault → fault = .cancelled) φ before now := by
  have hperform : (upkeep s named name (.going r true) trivial True).Kept
      (runner.perform run index g step.action) := by
    refine (Runner.breaks_perform (fun _ _ _ _ => id) (fun c hc =>
      Runner.breaks_look (fun _ _ _ _ => id) ?_) g step.action).kept trivial
    rw [htask]
    exact (kept_pause (hpauses c hc) _ _ _).breaks fun _ _ _ _ => id
  refine Program.keeps_rescueIf.mpr ((hperform φ before now hmoves).mono ?_)
  rintro (fault | value) φ before now ⟨hmoves, -⟩
  · cases fault with
    | cancelled => exact ⟨hmoves, fun _ heq => (Except.error.inj heq).symm⟩
    | _ => exact ⟨hmoves, nofun⟩
  · exact ⟨hmoves, nofun⟩

theorem keeps_performSteps (hchannel : runner.channel = busChannel) (start : Double)
    (index : Nat) (g : Gathered) (steps : List Step)
    (hmoves : Moves s named φ before (.going r told) now) :
    (runner.performSteps run start index g steps).Keeps (climate s named)
      (callContract s named name) (Went s named r) φ before now := by
  -- Before the first step nothing has been told; after it `told` stays true.
  induction steps generalizing index g φ before now told with
  | nil => exact went_ok hmoves
  | cons step rest ih =>
    refine keeps_bind_ask rfl hmoves fun time w hmoves => ?_
    dsimp only
    split
    · exact went_ok hmoves
    refine Program.keeps_bind.mpr ?_
    unfold Runner.announce
    rw [hchannel, htask]
    refine keeps_tell _ _ _ _ rfl hmoves fun y hmoves => ?_
    refine Program.keeps_bind.mpr ((keeps_performStep hpauses htask step g hmoves).mono ?_)
    rintro (fault | ⟨outcome, g⟩) φ before now ⟨hmoves, hcancelled⟩
    · refine ⟨true, hmoves, fun fault' heq => ?_⟩
      cases heq
      simp [hcancelled fault rfl]
    · cases outcome with
      | fatal failure => exact went_ok hmoves
      | ok | recovered => exact ih _ _ hmoves

omit hpauses htask in
/-- Handing a page back never fails. -/
theorem keeps_handBack {post : Ending State (List String) Unit Stance}
    (hrelease : (runner.release run.page).Calm (climate s named) (Leaves s) (· = .ok ()))
    (hmoves : Moves s named φ before (.going r told) now)
    (hpost : ∀ φ before now, Moves s named φ before (.going r told) now →
      post (.ok ()) φ before now) :
    (do
      Network.detach run.page
      if runner.coordinator.isSome then
        let _ ← Pause.cancel run.taskId
      runner.release run.page : Activity Unit).Keeps (climate s named)
      (callContract s named name) post φ before now := by
  have hreleased : ∀ {φ : Stance} {before now : Site}, Moves s named φ before (.going r told) now →
      (runner.release run.page).Keeps (climate s named) (callContract s named name) post φ before
        now := by
    refine fun hmoves => keeps_calm hrelease ?_ hmoves
    rintro _ φ before now rfl hmoves
    exact hpost φ before now hmoves
  refine Program.keeps_bind.mpr (keeps_calm (Network.calm_detach tolerates_leaves spares_climate
    (fun _ _ => .of_same (fun _ => (·)) rfl (fun _ => (·)) rfl) _) ?_ hmoves)
  rintro _ φ before now rfl hmoves
  dsimp only
  split
  · refine hreleased (hmoves.leaves (.of_same (fun _ => (·)) rfl ?_ rfl))
    exact Board.handles_cancel_subset
  · exact hreleased hmoves

theorem keeps_onPage (hchannel : runner.channel = busChannel) (start : Double) (steps : List Step)
    (hrelease : (runner.release run.page).Calm (climate s named) (Leaves s) (· = .ok ()))
    (hmoves : Moves s named φ before (.going r false) now) :
    (runner.onPage run start steps).Keeps (climate s named) (callContract s named name)
      (Went s named r) φ before now := by
  have hfailed : ∀ {β : Type} {result : Result β} {fault : Fault} {φ : Stance}
      {before now : Site}, Moves s named φ before (.going r false) now →
      (upkeep s named name (.going r false) trivial False).Fine result → result = .error fault →
      Went s named r (.error fault : Result (Option Failure × Gathered)) φ before now := by
    rintro β _ fault φ before now hmoves hfine rfl
    refine ⟨false, hmoves, ?_⟩
    rintro _ ⟨⟩
    exact iff_of_false (fun heq => hfine (congrArg Except.error heq)) nofun
  have hwatch : (upkeep s named name (.going r false) trivial False).Kept
      (Network.watch run.page) := Network.kept_watch follows_upkeep _
  have hattach : (upkeep s named name (.going r false) trivial False).Kept
      (Network.attach run.page) := Network.kept_attach follows_upkeep _
  refine Program.keeps_bind.mpr ((hwatch φ before now hmoves).mono ?_)
  rintro (fault | _) φ before now ⟨hmoves, hfine⟩
  · exact hfailed hmoves hfine rfl
  refine Program.keeps_bind.mpr ((hattach φ before now hmoves).mono ?_)
  rintro (fault | _) φ before now ⟨hmoves, hfine⟩
  · exact hfailed hmoves hfine rfl
  refine Program.keeps_ensure.mpr ((keeps_performSteps hpauses htask hchannel start 0 {} steps
    hmoves).mono ?_)
  rintro result φ before now ⟨told, hmoves, hcancelled⟩
  exact keeps_handBack hrelease hmoves fun φ before now hmoves =>
    ⟨told, hmoves, hcancelled⟩

end

/-- An execution has ended: it has told how, or was cancelled, or failed before anything was
told of it. -/
def Executed (s : Service) (named : String → Prop) (r : TaskRecord) :
    Ending State (List String) Execution Stance :=
  fun result φ before now => match result with
    | .ok e => Moves s named φ before
        (.closing r (if e.completed then .completed else .failed)) now
    | .error fault => Went s named r (.error fault : Result Execution) φ before now

theorem keeps_conclude (hchannel : runner.channel = busChannel) {w : Workflow}
    {context : TaskContext} (htask : context.taskId = r.taskId) (startedAt : Int) (start : Double)
    (failure : Option Failure) (g : Gathered)
    (hmoves : Moves s named φ before (.going r told) now) :
    (runner.conclude w context startedAt start failure g).Keeps (climate s named)
      (callContract s named name) (Executed s named r) φ before now := by
  refine keeps_bind_ask rfl hmoves fun stop w hmoves =>
    keeps_bind_ask rfl hmoves fun completedAt w hmoves => ?_
  refine Program.keeps_bind.mpr ?_
  cases failure with
  | none =>
    unfold Runner.report
    rw [hchannel, htask]
    exact keeps_close .completed _ _ _ hmoves fun _ => id
  | some f =>
    unfold Runner.report
    rw [hchannel, htask]
    exact keeps_close .failed _ _ _ hmoves fun _ => id

/-- What a runner of a service is made of. -/
structure Serves (s : Service) (named : String → Prop) (runner : Runner) : Prop where
  channel : runner.channel = busChannel
  pauses : ∀ c ∈ runner.coordinator, c.channel = busChannel
  acquire : runner.acquire.Calm (climate s named) (Leaves s) Uncancelled
  release : ∀ page, (runner.release page).Calm (climate s named) (Leaves s) (· = .ok ())

theorem serves_runner (hpauses : ∀ c ∈ s.coordinator, c.channel = busChannel) :
    Serves s named s.runner where
  channel := rfl
  pauses := hpauses
  acquire := Session.calm_acquire tolerates_leaves spares_climate
    (fun _ _ => .of_same (fun _ => (·)) rfl (fun _ => (·)) rfl) _
  release := Session.calm_release tolerates_leaves spares_climate

theorem keeps_run (hserves : Serves s named runner) (w : Workflow) (context : TaskContext)
    (htask : context.taskId = r.taskId) (hmoves : Moves s named φ before (.going r false) now) :
    (runner.execute w context).Keeps (climate s named) (callContract s named name)
      (Executed s named r) φ before now := by
  rw [Runner.execute_eq]
  refine keeps_bind_ask rfl hmoves fun startedAt w hmoves =>
    keeps_bind_ask rfl hmoves fun start w hmoves => ?_
  refine Program.keeps_bind.mpr (Program.keeps_attempt.mpr (keeps_calm hserves.acquire ?_ hmoves))
  rintro (fault | page) φ before now hspared hmoves
  · dsimp only
    split
    · rename_i heq
      cases heq
    · rename_i heq
      cases heq
      exact absurd rfl hspared
    · exact keeps_conclude hserves.channel htask _ _ _ _ hmoves
  · refine Program.keeps_bind.mpr ((keeps_onPage hserves.pauses htask hserves.channel start _
      (hserves.release page) hmoves).mono ?_)
    rintro (fault | ⟨failure, g⟩) φ before now ⟨told, hmoves, hcancelled⟩
    · exact ⟨told, hmoves, fun fault' heq => hcancelled fault' (by cases heq; rfl)⟩
    · exact keeps_conclude hserves.channel htask _ _ _ _ hmoves

/-- When an execution has been entered into its record, its task is in order unless the execution
was cancelled. -/
def Finished (s : Service) (named : String → Prop) (r : TaskRecord) :
    Ending State (List String) Execution Stance :=
  fun result φ before now =>
    Moves s named φ before (if result = .error .cancelled then .broken r else .silent none) now

theorem keeps_execute (hpauses : ∀ c ∈ s.coordinator, c.channel = busChannel) (w : Workflow)
    (context : TaskContext) (htask : context.taskId = r.taskId)
    (hr : now.2.tasks.get? r.taskId = some r)
    (hmoves : Moves s named φ before (.silent (some r.taskId)) now) :
    (s.execute r w context).Keeps (climate s named) (callContract s named name)
      (Finished s named r) φ before now := by
  refine Program.keeps_modify_bind.mpr (Program.keeps_bind.mpr (Program.keeps_attempt.mpr
    ((keeps_run (serves_runner hpauses) w context htask (hmoves.begin hr)).mono ?_)))
  intro result φ before now hend
  have hprune : ∀ {φ' : Stance} {now : Site}, Moves s named φ before φ' now →
      Moves s named φ before φ' (now.1, s.discard (now.2.tasks.surplus
        s.settings.runner.taskRetention r.taskId) now.2) :=
    fun hmoves => hmoves.leaves (hmoves.good.orderly.leaves_discard _ _)
  refine Program.keeps_modify_bind.mpr (Program.keeps_modify_bind.mpr
    (Program.keeps_ofResult.mpr ?_))
  cases result with
  | ok e => exact hprune hend.finish_closing
  | error fault =>
    obtain ⟨told, hmoves, hcancelled⟩ := hend
    unfold Finished
    cases told with
    | true =>
      rw [if_pos (congrArg Except.error ((hcancelled fault rfl).mpr rfl))]
      exact hprune hmoves.finish_told
    | false =>
      rw [if_neg fun heq => nomatch (hcancelled fault rfl).mp (Except.error.inj heq)]
      exact hprune hmoves.finish_untold

end

end Service.Agreement
end Pageflow
