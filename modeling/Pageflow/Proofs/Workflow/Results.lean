import Pageflow.Proofs.Workflow.Accounts
import Pageflow.Proofs.Workflow.Records

/-! The result of a run. However the run stops, its result is what the steps before made, and
nothing was asked for a step after the one at which it stopped. -/
namespace Pageflow.Runner
open Browser

variable {W : Type}

/-- A page is got ready for a run. -/
def prepare (run : Run) : Activity Unit := do
  Network.watch run.page
  Network.attach run.page

def handBack (r : Runner) (run : Run) : Activity Unit := do
  Network.detach run.page
  if r.coordinator.isSome then
    let _ ← Pause.cancel run.taskId
  r.release run.page

/-- The end of a run is told. -/
def report (r : Runner) (taskId : String) (total : Nat) : Option Failure → Activity Unit
  | none => Progress.announce r.channel taskId .completed total total "Workflow completed"
  | some f => Progress.announce r.channel taskId .failed (f.stepIndex.getD 0) total f.message

/-- The result of a run that began at `startedAt` and has ended. -/
def conclude (r : Runner) (w : Workflow) (context : TaskContext) (startedAt : Int) (start : Double)
    (failure : Option Failure) (g : Gathered) : Activity Execution := do
  let duration := (← Activity.elapsed) - start
  let completedAt ← Activity.now
  r.report context.taskId (w.resolve context).length failure
  return ⟨context.taskId, w.id, g.data, g.screenshots, failure, startedAt, completedAt, duration⟩

theorem execute_eq (r : Runner) (w : Workflow) (context : TaskContext) :
    r.execute w context = (do
      let startedAt ← Activity.now
      let start ← Activity.elapsed
      match ← r.acquire.attempt with
      | .ok page =>
        let (failure, g) ← r.onPage ⟨context.taskId, page, (w.resolve context).length⟩ start
          (w.resolve context)
        r.conclude w context startedAt start failure g
      | .error .cancelled => .fail .cancelled
      | .error fault => r.conclude w context startedAt start (some (sessionFailure fault)) {}) := by
  unfold execute conclude
  simp only [Program.bind_eq_bind]
  refine congrArg _ (funext fun startedAt => congrArg _ (funext fun start => ?_))
  refine congrArg _ (funext fun result => ?_)
  rcases result with fault | page
  · cases fault <;> rfl
  · refine congrArg (Program.bind _) (funext fun ended => ?_)
    obtain ⟨failure, g⟩ := ended
    cases failure <;> rfl

/-- What a run on a page asks: to get the page and to make it ready, for the steps that went
well and the one at which it stops, to hand the page back, and to tell of the end. -/
inductive Asks (r : Runner) (run : Run) (env : Responses State Ask Ask.Reply W)
    (steps : List Step) (records : List (Record W)) (failure : Option Failure) (x : W × State)
    (y : W × State) : List Ask → Prop where
  | intro {acquiring preparing ending closing telling : List Ask}
    {got opened stopped stop closed : W × State}
    (hacquire : r.acquire.Runs env x acquiring (.ok run.page) got)
    (hprepare : (prepare run).Runs env got preparing (.ok ()) opened)
    (hwent : Went r run env 0 opened records stopped)
    (hstops : Stops r run env records.length (steps.drop records.length) stopped ending failure
      stop)
    (hback : (r.handBack run).Runs env stop closing (.ok ()) closed)
    (hreport : (r.report run.taskId steps.length failure).Runs env
      (env .now (env .elapsed closed).2).2 telling (.ok ()) y) :
    Asks r run env steps records failure x y (acquiring ++ preparing ++
      (records.flatMap fun d => d.telling ++ d.calls) ++ ending ++ closing ++
      .elapsed :: .now :: telling)

/-- What is left of a run on a page that stopped after the steps of `records`. -/
structure Leaves (r : Runner) (run : Run) (env : Responses State Ask Ask.Reply W)
    (steps : List Step) (x : W × State) (calls : List Ask) (y : W × State) (e : Execution)
    (records : List (Record W)) : Prop where
  asks : Asks r run env steps records e.failure x y calls
  first : records.map (·.step) = steps.take records.length
  ended : ∀ d ∈ records, d.outcome.failure? = none
  completed : e.failure = none → records.length = steps.length
  stepIndex : ∀ f, e.failure = some f →
    f.stepIndex = some records.length ∧ records.length < steps.length
  names : (records.filterMap fun d => d.product.datum?).map Prod.fst =
    (steps.take records.length).filterMap (·.action.dataName?)
  /-- Of the texts made under one name the last one stands. -/
  data : ∀ name, e.data.lookup name =
    (records.filterMap fun d => d.product.datum?).reverse.lookup name
  keys : (e.data.map Prod.fst).Nodup
  screenshots : e.screenshots = records.filterMap fun d => d.product.picture?
  pictures : e.screenshots.length = (steps.take records.length).countP (·.action.isScreenshot)

section

variable {r : Runner} {run : Run} {w : Workflow} {context : TaskContext}
  {env : Responses State Ask Ask.Reply W} {x y : W × State} {calls : List Ask} {e : Execution}
  {failure : Option Failure} {g : Gathered} {index : Nat} {steps left : List Step}
  {records : List (Record W)}

open Program

theorem conclude_runs {startedAt : Int} {start : Double}
    (h : (r.conclude w context startedAt start failure g).Runs env x calls (.ok e) y) :
    ∃ telling, calls = .elapsed :: .now :: telling ∧
      (r.report context.taskId (w.resolve context).length failure).Runs env
        (env .now (env .elapsed x).2).2 telling (.ok ()) y ∧
      e.failure = failure ∧ e.data = g.data ∧ e.screenshots = g.screenshots := by
  obtain ⟨rest, rfl, hrest⟩ := runs_ask.mp h
  obtain ⟨rest, rfl, hlater⟩ := runs_ask.mp hrest
  simp only [Program.bind_eq_bind, Program.bind] at hlater
  obtain ⟨_, telling, _, _, rfl, hreport, hdone⟩ := runs_bind_ok.mp hlater
  obtain ⟨rfl, hresult, rfl⟩ := runs_done.mp hdone
  cases hresult
  exact ⟨telling, by simp, hreport, rfl, rfl, rfl⟩

theorem Went.products (h : Went r run env index x records y) :
    (∀ d ∈ records, d.outcome.failure? = none) ∧
      (records.filterMap fun d => d.product.datum?).map Prod.fst =
        (records.map (·.step)).filterMap (·.action.dataName?) ∧
      (records.filterMap fun d => d.product.picture?).length =
        (records.map (·.step)).countP (·.action.isScreenshot) := by
  induction h with
  | nil => simp
  | cons record _ _ hmakes _ ih =>
    obtain ⟨hended, hnames, hpictures⟩ := ih
    obtain ⟨hgood, hname, hpicture⟩ := hmakes.fits
    refine ⟨List.forall_mem_cons.mpr ⟨hgood, hended⟩, ?_, ?_⟩
    · rw [List.map_cons, List.filterMap_cons, List.filterMap_cons, ← hname]
      cases record.product.datum? with
      | none => exact hnames
      | some datum => exact congrArg _ hnames
    · rw [List.map_cons, List.filterMap_cons, List.countP_cons, ← hpicture]
      cases record.product.picture? with
      | none => exact hpictures
      | some shot => exact congrArg (· + 1) hpictures

theorem Stops.stepIndex {f : Failure}
    (h : Stops r run env index left x calls (some f) y) : f.stepIndex = some index ∧ left ≠ [] := by
  cases h with
  | late | failed => exact ⟨rfl, nofun⟩

theorem Stops.completed (h : Stops r run env index left x calls none y) : left = [] := by
  cases h
  rfl

theorem Asks.stops (h : Asks r run env steps records failure x y calls) :
    ∃ opened stopped ending stop, Went r run env 0 opened records stopped ∧
      Stops r run env records.length (steps.drop records.length) stopped ending failure stop := by
  cases h with
  | intro _ _ hwent hstops => exact ⟨_, _, _, _, hwent, hstops⟩

theorem Asks.leaves (hasks : Asks r run env steps records e.failure x y calls)
    (hfirst : records.map (·.step) = steps.take records.length) (hsums : Sums records {} g)
    (hdata : e.data = g.data) (hshots : e.screenshots = g.screenshots) :
    Leaves r run env steps x calls y e records := by
  obtain ⟨_, _, _, _, hwent, hstops⟩ := hasks.stops
  obtain ⟨hended, hnames, hpictures⟩ := hwent.products
  constructor
  case asks => exact hasks
  case first => exact hfirst
  case ended => exact hended
  case completed =>
    intro hnone
    rw [hnone] at hstops
    have hall := List.drop_eq_nil_iff.mp hstops.completed
    have hsome := congrArg List.length hfirst
    rw [List.length_map, List.length_take] at hsome
    omega
  case stepIndex =>
    intro f hf
    rw [hf] at hstops
    obtain ⟨hindex, hmore⟩ := hstops.stepIndex
    exact ⟨hindex, by simpa using hmore⟩
  case names => rwa [← hfirst]
  case data =>
    intro name
    rw [hdata, hsums.data, Json.lookup_foldl_setKey, List.append_nil]
  case keys =>
    rw [hdata, hsums.data]
    exact Json.nodup_foldl_setKey _ List.nodup_nil
  case screenshots =>
    rw [hshots, hsums.screenshots]
    rfl
  case pictures =>
    rw [hshots, hsums.screenshots, ← hfirst]
    exact hpictures

theorem onPage_runs {start : Double}
    (h : (r.onPage run start steps).Runs env x calls (.ok (failure, g)) y) :
    ∃ preparing looping closing opened stop, calls = preparing ++ looping ++ closing ∧
      (prepare run).Runs env x preparing (.ok ()) opened ∧
      (r.performSteps run start 0 {} steps).Runs env opened looping (.ok (failure, g)) stop ∧
      (r.handBack run).Runs env stop closing (.ok ()) y := by
  obtain ⟨_, watching, _, _, rfl, hwatch, hrest⟩ := runs_bind_ok.mp h
  obtain ⟨_, attaching, _, opened, rfl, hattach, hensure⟩ := runs_bind_ok.mp hrest
  obtain ⟨looping, closing, stop, rfl, hloop, hback⟩ := runs_ensure_ok.mp hensure
  exact ⟨watching ++ attaching, looping, closing, opened, stop, by simp,
    runs_bind_ok.mpr ⟨_, watching, attaching, _, rfl, hwatch, hattach⟩, hloop, hback⟩

/-- A run on a page leaves what the steps that went well made, a run without a page nothing. -/
theorem execute_leaves (h : (r.execute w context).Runs env x calls (.ok e) y) :
    (∃ page records rest, calls = .now :: .elapsed :: rest ∧
      Leaves r ⟨context.taskId, page, (w.resolve context).length⟩ env (w.resolve context)
        (env .elapsed (env .now x).2).2 rest y e records) ∨
    ∃ fault acquiring got telling, r.acquire.Runs env (env .elapsed (env .now x).2).2 acquiring
        (.error fault) got ∧
      e.failure = some (sessionFailure fault) ∧ e.data = [] ∧ e.screenshots = [] ∧
      calls = .now :: .elapsed :: acquiring ++ .elapsed :: .now :: telling := by
  rw [execute_eq] at h
  obtain ⟨_, rfl, hstart⟩ := runs_ask.mp h
  obtain ⟨_, rfl, hbegun⟩ := runs_ask.mp hstart
  simp only [Program.bind_eq_bind, Program.bind] at hbegun
  obtain ⟨result, acquiring, _, got, rfl, hattempt, hpaged⟩ := runs_bind_ok.mp hbegun
  obtain ⟨_, hinner, hacquire⟩ := runs_attempt.mp hattempt
  cases hinner
  split at hpaged
  · rename_i page
    obtain ⟨⟨failure, g⟩, _, _, _, rfl, hpage, hend⟩ := runs_bind_ok.mp hpaged
    obtain ⟨telling, rfl, hreport, rfl, hdata, hshots⟩ := conclude_runs hend
    obtain ⟨preparing, _, closing, opened, stop, rfl, hprepare, hloop, hback⟩ := onPage_runs hpage
    obtain ⟨records, stopped, left, ending, hwent, hstops, hsteps, rfl, hsums⟩ :=
      performSteps_runs hloop
    have hfirst : records.map (·.step) = (w.resolve context).take records.length := by
      rw [hsteps, List.take_left' (List.length_map _)]
    have hleft : left = (w.resolve context).drop records.length := by
      rw [hsteps, List.drop_left' (List.length_map _)]
    rw [Nat.zero_add, hleft] at hstops
    have hasks := Asks.intro hacquire hprepare hwent hstops hback hreport
    exact .inl ⟨page, records, _, rfl, Asks.leaves (by simpa using hasks) hfirst hsums hdata hshots⟩
  · cases (runs_fail.mp hpaged).2.1
  · rename_i fault _
    obtain ⟨telling, rfl, -, hfailure, hdata, hshots⟩ := conclude_runs hpaged
    exact .inr ⟨fault, acquiring, got, telling, hacquire, hfailure, hdata, hshots, by simp⟩

end

/-- A runner whose page comes from nowhere. -/
def pagedRunner : Runner where
  settings := sampleSettings
  acquire := .done ⟨0⟩
  release := fun _ => .done ()
  coordinator := none
  channel := none

def readClickShoot : Workflow where
  id := "read"
  name := "Read"
  description := ""
  requiredInput := none
  steps := [⟨"", .extractData "#title" "title"⟩, ⟨"", .click "#open"⟩,
    ⟨"", .screenshot "#title" false "title.png"⟩]
  enabled := true
  version := "1"
  tags := []
  id_valid := by decide
  steps_ne := by simp

/-- The text is missed, the click goes well, and the picture cannot be taken. -/
theorem execute_leaves_readClickShoot : ∃ calls e y page records rest,
    (pagedRunner.execute readClickShoot sampleContext).Runs (fun q x => (obliging false q, x))
        ((), {}) calls (.ok e) y ∧
      Leaves pagedRunner ⟨"t", page, 3⟩ (fun q x => (obliging false q, x))
        (readClickShoot.resolve sampleContext) ((), {}) rest y e records ∧
      records.length = 2 ∧ e.data = [("title", "")] ∧ e.screenshots = [] := by
  have hended : ((pagedRunner.execute readClickShoot sampleContext).run
      (fun q x => (obliging false q, x)) ((), {})).1.toOption.map (fun e =>
        (e.failure.bind (·.stepIndex), e.data, e.screenshots)) =
      some (some 2, [("title", "")], []) := by decide +kernel
  have hruns := Program.runs_run (fun q x => (obliging false q, x))
    (pagedRunner.execute readClickShoot sampleContext) ((), {})
  rcases hresult : ((pagedRunner.execute readClickShoot sampleContext).run
      (fun q x => (obliging false q, x)) ((), {})).1 with fault | e
  · rw [hresult] at hended
    cases hended
  rw [hresult] at hended hruns
  obtain ⟨hindex, hdata, hshots⟩ : e.failure.bind (·.stepIndex) = some 2 ∧
      e.data = [("title", "")] ∧ e.screenshots = [] := by
    simpa [Except.toOption] using hended
  rcases execute_leaves hruns with ⟨page, records, rest, -, hleaves⟩ | ⟨fault, _, _, _, hacquire, -⟩
  · obtain ⟨f, hf, hstep⟩ := Option.bind_eq_some_iff.mp hindex
    have hlength := (hleaves.stepIndex f hf).1
    rw [hstep] at hlength
    have htwo : records.length = 2 := by
      have hcast := Option.some.inj hlength
      omega
    exact ⟨_, e, _, page, records, rest, hruns, hleaves, htwo, hdata, hshots⟩
  · cases (Program.runs_done.mp hacquire).2.1

/-! ## From getting a page to the end

However a run ends, its page is handed back after the steps; only a run that is told to go on is
concluded. -/

section

open Program

/-- What follows the steps of a run: it hands its page back, and unless the steps or the
hand-back were broken off, it concludes. -/
inductive Closes (r : Runner) (run : Run) (w : Workflow) (context : TaskContext)
    (env : Responses State Ask Ask.Reply W) (startedAt : Int) (start : Double) :
    Result (Option Failure × Gathered) → W × State → List Ask → Result Execution → W × State →
    Prop where
  | concluded {failure : Option Failure} {g : Gathered} {x back y : W × State}
    {handing concluding : List Ask} {result : Result Execution}
    (hback : (r.handBack run).Runs env x handing (.ok ()) back)
    (hend : (r.conclude w context startedAt start failure g).Runs env back concluding result y) :
    Closes r run w context env startedAt start (.ok (failure, g)) x (handing ++ concluding) result y
  | broken {loop : Result (Option Failure × Gathered)} {back : Result Unit} {x y : W × State}
    {handing : List Ask} {fault : Fault} (hback : (r.handBack run).Runs env x handing back y)
    (hfault : (back >>= fun _ => loop) = .error fault) :
    Closes r run w context env startedAt start loop x handing (.error fault) y

variable {r : Runner} {run : Run} {w : Workflow} {context : TaskContext}
  {env : Responses State Ask Ask.Reply W} {x y : W × State}

theorem conclude_failure {startedAt : Int} {start : Double} {failure : Option Failure}
    {g : Gathered} {calls : List Ask} {e : Execution}
    (h : (r.conclude w context startedAt start failure g).Runs env x calls (.ok e) y) :
    e.failure = failure := by
  obtain ⟨_, _, _, hfailure, _, _⟩ := conclude_runs h
  exact hfailure

theorem Closes.failure {startedAt : Int} {start : Double}
    {loop : Result (Option Failure × Gathered)} {calls : List Ask} {e : Execution}
    (h : Closes r run w context env startedAt start loop x calls (.ok e) y) :
    ∃ g, loop = .ok (e.failure, g) := by
  cases h with
  | concluded hback hend => exact ⟨_, by rw [conclude_failure hend]⟩

theorem onPage_eq (r : Runner) (run : Run) (start : Double) (steps : List Step) :
    r.onPage run start steps = (prepare run).bind fun _ =>
      (r.performSteps run start 0 {} steps).ensure (r.handBack run) := by
  unfold prepare
  rw [Program.bind_eq_bind, Program.bind_assoc]
  rfl

/-- Once a page is ready, the steps are performed on it and it is handed back. -/
theorem onPage_ends {start : Double} {steps : List Step} {preparing calls : List Ask}
    {opened : W × State} {ended : Result (Option Failure × Gathered)}
    (h : (r.onPage run start steps).Runs env x calls ended y)
    (hprepare : (prepare run).Runs env x preparing (.ok ()) opened) :
    ∃ loop back looping handing stop, calls = preparing ++ looping ++ handing ∧
      (r.performSteps run start 0 {} steps).Runs env opened looping loop stop ∧
      (r.handBack run).Runs env stop handing back y ∧ ended = back >>= fun _ => loop := by
  rw [onPage_eq] at h
  rcases runs_bind.mp h with ⟨_, _, rest, _, rfl, hready, hsteps⟩ | ⟨_, -, hready⟩
  · obtain ⟨rfl, -, rfl⟩ := hready.unique hprepare
    obtain ⟨loop, back, looping, handing, stop, rfl, hloop, hback, hended⟩ := runs_ensure.mp hsteps
    exact ⟨loop, back, looping, handing, stop, by simp, hloop, hback, hended⟩
  · cases (hready.unique hprepare).2.1

/-- A run that got its page and made it ready performs its steps and closes. -/
theorem execute_closes {acquiring preparing calls : List Ask} {got opened : W × State}
    {page : PageRef} {result : Result Execution}
    (h : (r.execute w context).Runs env x calls result y)
    (hacquire : r.acquire.Runs env (env .elapsed (env .now x).2).2 acquiring (.ok page) got)
    (hprepare : (prepare ⟨context.taskId, page, (w.resolve context).length⟩).Runs env got preparing
      (.ok ()) opened) :
    ∃ loop looping stop closing,
      calls = .now :: .elapsed :: (acquiring ++ preparing ++ looping ++ closing) ∧
      (r.performSteps ⟨context.taskId, page, (w.resolve context).length⟩
        (env .elapsed (env .now x).2).1 0 {} (w.resolve context)).Runs env opened looping loop
          stop ∧
      Closes r ⟨context.taskId, page, (w.resolve context).length⟩ w context env (env .now x).1
        (env .elapsed (env .now x).2).1 loop stop closing result y := by
  rw [execute_eq] at h
  obtain ⟨_, rfl, hstart⟩ := runs_ask.mp h
  obtain ⟨_, rfl, hbegun⟩ := runs_ask.mp hstart
  simp only [Program.bind_eq_bind, Program.bind] at hbegun
  obtain ⟨_, _, rest, _, rfl, hgot, hpaged⟩ := runs_attempt_bind.mp hbegun
  obtain ⟨rfl, rfl, rfl⟩ := hgot.unique hacquire
  rcases runs_bind.mp hpaged with ⟨⟨failure, g⟩, _, concluding, _, rfl, hpage, hend⟩ |
    ⟨_, rfl, hpage⟩
  · obtain ⟨loop, back, looping, handing, stop, rfl, hloop, hback, hended⟩ :=
      onPage_ends hpage hprepare
    cases back with
    | error fault => cases hended
    | ok value =>
      obtain rfl : loop = .ok (failure, g) := hended.symm
      exact ⟨_, looping, stop, handing ++ concluding, by simp, hloop, .concluded hback hend⟩
  · obtain ⟨loop, back, looping, handing, stop, rfl, hloop, hback, hended⟩ :=
      onPage_ends hpage hprepare
    exact ⟨loop, looping, stop, handing, by simp, hloop, .broken hback hended.symm⟩

end

end Pageflow.Runner
