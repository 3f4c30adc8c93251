import Pageflow.Proofs.Service.Table
import Pageflow.Proofs.Workflow.Frame

/-! What one call to the service does to the table of tasks, turn by turn. Others may have
their turn at every question, and any question may be answered with a fault. -/
namespace Pageflow

/-- A fresh id is not empty. -/
def Ask.Issues : (q : Ask) → Ask.Reply q → Prop
  | .freshId, id => id ≠ ""
  | _, _ => True

theorem Registry.id_of_require {registry : Registry} {id : String} {w : Workflow}
    (h : registry.require id = .ok w) : w.id = id := by
  unfold Registry.require at h
  split at h
  · cases h
  · rename_i v hfound
    split at h <;> cases h
    simpa using List.find?_some hfound

theorem Workflow.taskId_of_bind {w : Workflow} {taskId : String} {request : Request}
    {context : TaskContext} (h : (w.bind taskId request).toResult = .ok context) :
    context.taskId = taskId := by
  have hchecked : ∀ (correlation : Schema.Checked String)
      (parameters : Schema.Checked (List (String × String))),
      (TaskContext.mk <$> Schema.Checked.valid taskId <*> correlation <*> parameters).toResult =
        .ok context → context.taskId = taskId := by
    intro correlation parameters h
    cases correlation <;> cases parameters <;> cases h
    rfl
  exact hchecked _ _ h

namespace Service
open Browser

inductive Call where
  | submit (workflowId : String) (order : Order)
  | run (workflowId : String) (order : Order)
  | runWorkflow (w : Workflow) (context : TaskContext)
  | runBatch (workflowId : String) (inputs : List Json) (order : Order)

inductive Answer where
  | record (r : TaskRecord)
  | execution (e : Execution)
  | batch (items : List BatchItem)

def Call.activity (s : Service) : Call → Activity Answer
  | .submit workflowId order => return .record (← Service.submit workflowId order)
  | .run workflowId order => return .execution (← s.run workflowId order)
  | .runWorkflow w context => return .execution (← s.runWorkflow w context)
  | .runBatch workflowId inputs order => return .batch (← s.runBatch workflowId inputs order)

/-- What is reported of a call. With the end of an execution comes the record it was of. -/
inductive Report where
  | submitted (r : TaskRecord)
  | executed (r : TaskRecord) (result : Result Execution)
  | batch (items : List BatchItem)

def Report.answer : Report → Result Answer
  | .submitted r => .ok (.record r)
  | .executed _ result => result.map .execution
  | .batch items => .ok (.batch items)

/-- Executes a workflow and goes on with `next`, unless it failed, which is reported. -/
def track (s : Service) (r : TaskRecord) (w : Workflow) (context : TaskContext)
    (next : Execution → Activity Report) : Activity Report := do
  match ← (s.execute r w context).attempt with
  | .ok e => next e
  | .error fault => return .executed r (.error fault)

def reportEach (s : Service) (workflowId : String) (order : Order) :
    List Json → List BatchItem → Activity Report
  | [], items => pure (.batch items)
  | input :: rest, items => do
    let (r, w, context) ← prepare workflowId (order.forInput input)
    s.track r w context fun e =>
      s.reportEach workflowId order rest (items ++ [⟨input, e.taskId, e⟩])

/-- A call that reports on its last execution. -/
def Call.report (s : Service) : Call → Activity Report
  | .submit workflowId order => return .submitted (← Service.submit workflowId order)
  | .run workflowId order => do
    let (r, w, context) ← prepare workflowId order
    s.track r w context fun e => pure (.executed r (.ok e))
  | .runWorkflow w context => do
    let r ← enter context.taskId w.id {}
    s.track r w context fun e => pure (.executed r (.ok e))
  | .runBatch workflowId inputs order =>
    if s.settings.runner.maxBatchSize < inputs.length then
      .fail (.batchLimit inputs.length s.settings.runner.maxBatchSize)
    else do
      let _ ← require workflowId
      s.reportEach workflowId order inputs []

/-! ## Reports and answers -/

section

variable {s : Service}

theorem attempt_bind {α β : Type} (p : Activity α) (f : α → Activity β) :
    (p.attempt.bind fun
      | .ok value => f value
      | .error fault => .fail fault) = p.bind f := by
  induction p with
  | done value => rfl
  | fail fault => rfl
  | read next ih => exact congrArg Program.read (funext ih)
  | write t next ih => exact congrArg (Program.write t) ih
  | ask q next ih => exact congrArg (Program.ask q) (funext ih)

theorem track_answer (r : TaskRecord) (w : Workflow) (context : TaskContext)
    (next : Execution → Activity Report) :
    ((s.track r w context next).bind fun report => .ofResult report.answer) =
      (s.execute r w context).bind fun e =>
        (next e).bind fun report => .ofResult report.answer := by
  unfold track
  rw [Program.bind_eq_bind, Program.bind_assoc]
  refine Eq.trans (congrArg _ (funext fun result => ?_)) (attempt_bind _ _)
  cases result <;> rfl

theorem reportEach_answer (workflowId : String) (order : Order) (inputs : List Json)
    (items : List BatchItem) :
    ((s.reportEach workflowId order inputs items).bind fun report => .ofResult report.answer) =
      (s.runEach workflowId order inputs).bind fun rest => .done (.batch (items ++ rest)) := by
  induction inputs generalizing items with
  | nil => simp [reportEach, runEach, Program.bind, Report.answer, Program.ofResult]
  | cons input rest ih =>
    unfold reportEach runEach run
    simp only [Program.bind_eq_bind, Program.bind_assoc, track_answer, ih]
    refine congrArg _ (funext fun prepared => congrArg _ (funext fun e => ?_))
    refine congrArg _ (funext fun others => ?_)
    simp [Program.bind]

/-- A call that reports does what the call does, and its report says what is answered. -/
theorem report_answer (call : Call) :
    ((call.report s).bind fun report => .ofResult report.answer) = call.activity s := by
  cases call with
  | submit workflowId order =>
    exact Program.bind_assoc ..
  | run workflowId order =>
    unfold Call.report Call.activity run
    simp only [Program.bind_eq_bind, Program.bind_assoc, track_answer]
    rfl
  | runWorkflow w context =>
    unfold Call.report Call.activity runWorkflow
    simp only [Program.bind_eq_bind, Program.bind_assoc, track_answer]
    rfl
  | runBatch workflowId inputs order =>
    unfold Call.report Call.activity runBatch
    dsimp only
    split
    · rfl
    · simp only [Program.bind_eq_bind, Program.bind_assoc, reportEach_answer]
      rfl

end

/-! ## Turns -/

/-- Any answers at any time. Nobody but the calls touches the table of tasks. -/
def climate : Climate State Ask Ask.Reply Unit where
  admits _ _ := True
  atOnce _ := False
  answers q _ reply _ := q.Issues reply
  happens x y := SameTasks x y

inductive Phase where
  /-- No execution is under way. -/
  | fresh
  | executing (r : TaskRecord) (workflowId : String)
  /-- The last execution has ended, and the call with it. -/
  | concluded (r : TaskRecord) (result : Result Execution)
  /-- Ended otherwise. -/
  | past

/-- An execution of the workflow `workflowId` on the record `r` ends with `result`: this is
entered into the table and the table is pruned. -/
structure Concludes (s : Service) (r : TaskRecord) (workflowId : String)
    (result : Result Execution) (x y : State) : Prop where
  pruned : ∃ mid : State, mid.tasks = x.tasks.finish r.serial result.toOption ∧
    y = s.discard (mid.tasks.surplus s.settings.runner.taskRetention r.taskId) mid
  names : ∀ e, result = .ok e → e.taskId = r.taskId ∧ e.workflowId = workflowId

/-- The table has a record, which was found there or has been entered just now for the
workflow `workflowId`. -/
inductive Provides (t : Table) (r : TaskRecord) (workflowId : String) : Table → Prop where
  | found (hmem : r ∈ t.records) : Provides t r workflowId t
  | entered {t' : Table} (henters : t.Enters r t') (hworkflow : r.workflowId = workflowId) :
    Provides t r workflowId t'

/-- What a turn of a call does to the table of tasks. -/
inductive Turns (s : Service) : Phase → State → Phase → State → Prop where
  | wait {x y : State} (hsame : y.tasks = x.tasks) : Turns s .fresh x .fresh y
  | refuse {x y : State} (hsame : y.tasks = x.tasks) : Turns s .fresh x .past y
  | enter {x y : State} {r : TaskRecord} (henters : x.tasks.Enters r y.tasks) :
    Turns s .fresh x .past y
  | begin {x y : State} {r : TaskRecord} {workflowId : String} {t : Table}
    (hprovides : Provides x.tasks r workflowId t) (hbegin : y.tasks = t.begin r.serial) :
    Turns s .fresh x (.executing r workflowId) y
  | goOn {x y : State} {r : TaskRecord} {workflowId : String} (hsame : y.tasks = x.tasks) :
    Turns s (.executing r workflowId) x (.executing r workflowId) y
  | conclude {x y : State} {r : TaskRecord} {workflowId : String} {result : Result Execution}
    (hconcludes : s.Concludes r workflowId result x y) :
    Turns s (.executing r workflowId) x (.concluded r result) y
  /-- An execution in a batch has ended well. -/
  | next {x y : State} {r : TaskRecord} {e : Execution}
    (hconcludes : s.Concludes r r.workflowId (.ok e) x y) :
    Turns s (.executing r r.workflowId) x .fresh y
  | finish {x y : State} {r : TaskRecord} {e : Execution}
    (hconcludes : s.Concludes r r.workflowId (.ok e) x y) :
    Turns s (.executing r r.workflowId) x .past y

def Phase.Ends : Phase → Result Report → Prop
  | .concluded r result, report => report = .ok (.executed r result)
  | .past, report => ∀ r result, report ≠ .ok (.executed r result)
  | _, _ => False

/-- Whether a call may stand at a question. -/
def Phase.Waits : Phase → Prop
  | .fresh | .executing _ _ => True
  | .concluded _ _ | .past => False

def contract (s : Service) : Contract State Ask Unit Report Phase where
  start := .fresh
  rely _ _ := True
  rests φ _ := φ.Waits
  moves φ x φ' y := Turns s φ x.2 φ' y.2
  ends := Phase.Ends

section

variable {s : Service} {α : Type} {φ : Phase} {before now : Unit × State} {r : TaskRecord}
  {w : Workflow} {context : TaskContext} {workflowId : String} {order : Order}

theorem Turns.past {x y : State} (h : Turns s φ x .fresh y) : Turns s φ x .past y := by
  cases h with
  | wait hsame => exact .refuse hsame
  | next hconcludes => exact .finish hconcludes

theorem Turns.stay {x y z : State} (h : Turns s φ x (.executing r workflowId) y)
    (hsame : z.tasks = y.tasks) : Turns s φ x (.executing r workflowId) z := by
  cases h with
  | begin hprovides hbegin => exact .begin hprovides (hsame.trans hbegin)
  | goOn hsame' => exact .goOn (hsame.trans hsame')

theorem Turns.tasks_eq {x y : State}
    (h : Turns s (.executing r workflowId) x (.executing r workflowId) y) :
    y.tasks = x.tasks := by
  cases h with
  | goOn hsame => exact hsame

theorem keeps_ask {q : Ask} {next : Ask.Reply q → Activity α} {post : Ending State Unit α Phase}
    (hready : Turns s φ before.2 .fresh now.2)
    (hnext : ∀ later reply, q.Issues reply →
      (next reply).Keeps climate s.contract post .fresh later later) :
    (Program.ask q next).Keeps climate s.contract post φ before now :=
  ⟨fun honce => honce.elim, fun _ => ⟨.fresh, hready, trivial,
    fun later reply _ _ hissues => hnext later reply hissues⟩⟩

theorem keeps_require {post : Ending State Unit Workflow Phase}
    (hrefuse : ∀ fault, post (.error fault) φ before now)
    (hpost : ∀ w : Workflow, w.id = workflowId → post (.ok w) φ before now) :
    (require workflowId).Keeps climate s.contract post φ before now := by
  refine Program.keeps_ofResult.mpr ?_
  cases hrequire : now.2.registry.require workflowId with
  | error fault => exact hrefuse fault
  | ok w => exact hpost w (Registry.id_of_require hrequire)

theorem keeps_chooseId {taskId : Option String} {post : Ending State Unit String Phase}
    (hready : Turns s φ before.2 .fresh now.2)
    (hgiven : ∀ id ∈ taskId, id ≠ "" → post (.ok id) φ before now)
    (hpost : ∀ id later, id ≠ "" → post (.ok id) .fresh later later) :
    (chooseId taskId).Keeps climate s.contract post φ before now := by
  unfold chooseId
  split
  · rename_i id hid
    obtain ⟨hmem, hne⟩ := Option.filter_eq_some_iff.mp hid
    exact hgiven id hmem (by simpa using hne)
  · exact keeps_ask hready fun later id hid => hpost id later hid

theorem keeps_enter {taskId : String} {post : Ending State Unit TaskRecord Phase}
    (hready : Turns s φ before.2 .fresh now.2)
    (hpost : ∀ (r : TaskRecord) (x y : Unit × State), x.2.tasks.Enters r y.2.tasks →
      r.taskId = taskId → r.workflowId = workflowId → post (.ok r) .fresh x y) :
    (enter taskId workflowId order).Keeps climate s.contract post φ before now :=
  keeps_ask hready fun _ _ _ => hpost _ _ _ (Table.enters_submit ..) rfl rfl

/-- How it ends to look for the record of an order. -/
def Provided (s : Service) (workflowId : String) (order : Order) :
    Ending State Unit TaskRecord Phase :=
  fun result φ before now => match result with
    | .ok r => φ = .fresh ∧ Provides before.2.tasks r workflowId now.2.tasks ∧ r.taskId ≠ "" ∧
      (order.taskId = none → r.workflowId = workflowId)
    | .error _ => Turns s φ before.2 .past now.2

theorem keeps_submit (hready : Turns s φ before.2 .fresh now.2) :
    (submit workflowId order).Keeps climate s.contract (s.Provided workflowId order) φ before
      now := by
  refine Program.keeps_bind.mpr (keeps_require (fun _ => hready.past) fun w _ => ?_)
  refine Program.keeps_bind.mpr (keeps_chooseId hready (fun id _ hid => ?_) fun id later hid => ?_)
  · refine keeps_enter hready fun r x y henters htask hworkflow => ?_
    exact ⟨rfl, .entered henters hworkflow, htask ▸ hid, fun _ => hworkflow⟩
  · refine keeps_enter (.wait rfl) fun r x y henters htask hworkflow => ?_
    exact ⟨rfl, .entered henters hworkflow, htask ▸ hid, fun _ => hworkflow⟩

/-- An order that names no task is not served from the table. -/
theorem keeps_recordFor (hready : Turns s φ before.2 .fresh now.2)
    (hfirst : order.taskId = none ∨ φ = .fresh ∧ now.2.tasks = before.2.tasks) :
    (recordFor workflowId order).Keeps climate s.contract (s.Provided workflowId order) φ before
      now := by
  unfold recordFor Program.state
  simp only [Program.bind_eq_bind, Program.bind, Program.Keeps]
  split
  · rename_i r hfound
    obtain ⟨id, hid, hget⟩ := Option.bind_eq_some_iff.mp hfound
    obtain ⟨hgiven, hne⟩ := Option.filter_eq_some_iff.mp hid
    obtain ⟨hmem, rfl⟩ := Table.mem_of_get? hget
    obtain ⟨rfl, hsame⟩ := hfirst.resolve_left (by simp [hgiven])
    rw [hsame] at hmem
    refine ⟨rfl, ?_, by simpa using hne, fun hnone => by simp [hnone] at hgiven⟩
    rw [hsame]
    exact .found hmem
  · exact keeps_submit hready

def Prepared (s : Service) (order : Order) :
    Ending State Unit (TaskRecord × Workflow × TaskContext) Phase :=
  fun result φ before now => match result with
    | .ok (r, w, context) => φ = .fresh ∧ Provides before.2.tasks r w.id now.2.tasks ∧
      context.taskId = r.taskId ∧ (order.taskId = none → r.workflowId = w.id)
    | .error _ => Turns s φ before.2 .past now.2

theorem Provides.past {t : Table} {x y : State} (h : Provides x.tasks r workflowId t)
    (hy : y.tasks = t) : Turns s .fresh x .past y := by
  cases h with
  | found => exact .refuse hy
  | entered henters => exact .enter (hy ▸ henters)

theorem keeps_prepare (hready : Turns s φ before.2 .fresh now.2)
    (hfirst : order.taskId = none ∨ φ = .fresh ∧ now.2.tasks = before.2.tasks) :
    (prepare workflowId order).Keeps climate s.contract (s.Prepared order) φ before now := by
  refine Program.keeps_bind.mpr (keeps_require (fun _ => hready.past) fun w hw => ?_)
  subst hw
  refine Program.keeps_bind.mpr ((keeps_recordFor hready hfirst).mono ?_)
  rintro (fault | r) φ before now hend
  · exact hend
  obtain ⟨rfl, hprovides, hne, hworkflow⟩ := hend
  refine Program.keeps_bind.mpr (Program.keeps_bind.mpr ?_)
  have hchosen : chooseId (some r.taskId) = .done r.taskId := by
    simp [chooseId, Option.filter, hne]
  rw [hchosen]
  refine Program.keeps_ofResult.mpr ?_
  cases hbind : (w.bind r.taskId order.request).toResult with
  | error fault => exact hprovides.past rfl
  | ok context => exact ⟨rfl, hprovides, Workflow.taskId_of_bind hbind, hworkflow⟩

def Executed (s : Service) (r : TaskRecord) (workflowId : String) :
    Ending State Unit Execution Phase :=
  fun result φ before now =>
    φ = .executing r workflowId ∧ s.Concludes r workflowId result before.2 now.2

variable (hpauses : ∀ c ∈ s.coordinator, c.channel = Progress.busChannel)
include hpauses

theorem keeps_execute (hprovides : Provides before.2.tasks r w.id now.2.tasks)
    (htask : context.taskId = r.taskId) :
    (s.execute r w context).Keeps climate s.contract (s.Executed r w.id) .fresh before now := by
  refine Program.keeps_modify_bind.mpr (Program.keeps_bind.mpr (Program.keeps_attempt.mpr ?_))
  have hbegin : s.contract.moves .fresh before (.executing r w.id)
      (now.1, { now.2 with tasks := now.2.tasks.begin r.serial }) := Turns.begin hprovides rfl
  refine Program.Calm.keeps_waiting (Runner.calm_execute (s.leaves_runner hpauses) w context) id
    (fun _ => rfl) ?_ (fun _ => trivial) (fun _ _ => Turns.goOn rfl) ?_ hbegin
  · exact fun _ _ _ _ hmoves hsame => Turns.stay hmoves hsame
  · intro result before x hnames hmoves
    have hsame := Turns.tasks_eq hmoves
    refine Program.keeps_modify_bind.mpr (Program.keeps_modify_bind.mpr
      (Program.keeps_ofResult.mpr ⟨rfl, ⟨_, ?_, rfl⟩, fun e he => ?_⟩))
    · rw [← hsame]
    · rw [← htask]
      exact hnames e he

theorem keeps_track {next : Execution → Activity Report}
    (hprovides : Provides before.2.tasks r w.id now.2.tasks) (htask : context.taskId = r.taskId)
    (hnext : ∀ e x y, s.Concludes r w.id (.ok e) x.2 y.2 →
      (next e).Keeps climate s.contract s.contract.closes (.executing r w.id) x y) :
    (s.track r w context next).Keeps climate s.contract s.contract.closes .fresh before now := by
  refine Program.keeps_bind.mpr (Program.keeps_attempt.mpr
    ((keeps_execute hpauses hprovides htask).mono ?_))
  rintro (fault | e) φ before now ⟨rfl, hconcludes⟩
  · exact ⟨.concluded r (.error fault), .conclude hconcludes, rfl⟩
  · exact hnext e before now hconcludes

theorem keeps_reportEach (inputs : List Json) (items : List BatchItem)
    (hready : Turns s φ before.2 .fresh now.2) :
    (s.reportEach workflowId order inputs items).Keeps climate s.contract s.contract.closes φ
      before now := by
  induction inputs generalizing items φ before now with
  | nil => exact ⟨.past, hready.past, fun _ _ => nofun⟩
  | cons input rest ih =>
    refine Program.keeps_bind.mpr ((keeps_prepare hready (.inl rfl)).mono ?_)
    rintro (fault | ⟨r, w, context⟩) φ before now hend
    · exact ⟨.past, hend, fun _ _ => nofun⟩
    obtain ⟨rfl, hprovides, htask, hworkflow⟩ := hend
    refine keeps_track hpauses hprovides htask fun e x y hconcludes => ih _ ?_
    rw [← hworkflow rfl] at hconcludes ⊢
    exact .next hconcludes

theorem keeps_report (call : Call) (x : Unit × State) :
    (call.report s).Keeps climate s.contract s.contract.closes .fresh x x := by
  have hready : Turns s .fresh x.2 .fresh x.2 := .wait rfl
  have hconclude : ∀ (r : TaskRecord) (w : Workflow) (e : Execution) (x y : Unit × State),
      s.Concludes r w.id (.ok e) x.2 y.2 →
      (pure (.executed r (.ok e)) : Activity Report).Keeps climate s.contract s.contract.closes
        (.executing r w.id) x y :=
    fun r w e x y hconcludes => ⟨.concluded r (.ok e), .conclude hconcludes, rfl⟩
  cases call with
  | submit workflowId order =>
    refine Program.keeps_bind.mpr ((keeps_submit hready).mono ?_)
    rintro (fault | r) φ before now hend
    · exact ⟨.past, hend, fun _ _ => nofun⟩
    · obtain ⟨rfl, hprovides, -⟩ := hend
      exact ⟨.past, hprovides.past rfl, fun _ _ => nofun⟩
  | run workflowId order =>
    refine Program.keeps_bind.mpr ((keeps_prepare hready (.inr ⟨rfl, rfl⟩)).mono ?_)
    rintro (fault | ⟨r, w, context⟩) φ before now hend
    · exact ⟨.past, hend, fun _ _ => nofun⟩
    obtain ⟨rfl, hprovides, htask, -⟩ := hend
    exact keeps_track hpauses hprovides htask (hconclude r w)
  | runWorkflow w context =>
    refine Program.keeps_bind.mpr (keeps_enter hready fun r y z henters htask hworkflow => ?_)
    exact keeps_track hpauses (.entered henters hworkflow) htask.symm (hconclude r w)
  | runBatch workflowId inputs order =>
    unfold Call.report
    dsimp only
    split
    · exact ⟨.past, .refuse rfl, fun _ _ => nofun⟩
    · refine Program.keeps_bind.mpr (keeps_require (fun _ => ?_) fun _ _ => ?_)
      · exact ⟨.past, .refuse rfl, fun _ _ => nofun⟩
      · exact keeps_reportEach hpauses inputs [] hready

end

end Service
end Pageflow
