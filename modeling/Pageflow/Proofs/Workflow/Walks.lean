import Mathlib.Data.List.Flatten
import Pageflow.Proofs.Workflow.Deeds

/-! What the steps of a run do, one after the other. However often the run is paused, each step that
is begun opens or clicks at most once, and nothing is done to the page but in the steps. -/
namespace Pageflow.Runner

open Browser Program

variable {W : Type} {r : Runner} {run : Run} {env : Responses State Ask Ask.Reply W} {index : Nat}
  {x y : W × State} {calls : List Ask} {g : Gathered}

/-- A step that was begun. -/
structure Begun (W : Type) where
  step : Step
  /-- How things stand when it has been told of. -/
  told : W × State
  calls : List Ask
  result : Result (Outcome × Gathered)
  left : W × State

/-- The step ended ok or recovered. -/
def Begun.EndedWell (b : Begun W) : Prop :=
  ∃ outcome g, b.result = .ok (outcome, g) ∧ outcome.failure? = none

/-- Tells that a step begins. -/
def announceStep (r : Runner) (run : Run) (index : Nat) (step : Step) : Activity Unit :=
  r.announce run .running index
    (if step.description.isEmpty then step.action.name else step.description)

/-- What is kept of a step is what the run did there. -/
structure Begun.Tells (b : Begun W) (r : Runner) (run : Run) (env : Responses State Ask Ask.Reply W)
    (index : Nat) : Prop where
  performed : ∃ g, (r.performStep run index b.step g).Runs env b.told b.calls b.result b.left
  carries : Carries r run env index b.step.action b.told b.calls b.left
  actsOnce : ActsOnce r run.page b.step.action (b.calls.filter Ask.acts)

/-- The steps of a run one after the other, and those of them that are begun. A step is begun when
it has been told of, and the next one is come to only if it ended well. -/
inductive Walks (r : Runner) (run : Run) (env : Responses State Ask Ask.Reply W) :
    Nat → W × State → List Ask → List Step → List (Begun W) → W × State → Prop where
  | finished (index : Nat) (x : W × State) : Walks r run env index x [] [] [] x
  | late (index : Nat) (x : W × State) (step : Step) (rest : List Step) :
    Walks r run env index x [.elapsed] (step :: rest) [] (env .elapsed x).2
  | untold {index : Nat} {x y : W × State} {telling : List Ask} {step : Step} {fault : Fault}
    (rest : List Step)
    (htell : (r.announceStep run index step).Runs env (env .elapsed x).2 telling
      (.error fault) y) :
    Walks r run env index x (.elapsed :: telling) (step :: rest) [] y
  | last {index : Nat} {x : W × State} {telling : List Ask} (b : Begun W) (rest : List Step)
    (htell : (r.announceStep run index b.step).Runs env (env .elapsed x).2 telling (.ok ()) b.told)
    (htells : b.Tells r run env index) (hended : ¬ b.EndedWell) :
    Walks r run env index x (.elapsed :: (telling ++ b.calls)) (b.step :: rest) [b] b.left
  | next {index : Nat} {x y : W × State} {telling later : List Ask} (b : Begun W)
    {rest : List Step} {begun : List (Begun W)}
    (htell : (r.announceStep run index b.step).Runs env (env .elapsed x).2 telling (.ok ()) b.told)
    (htells : b.Tells r run env index) (hended : b.EndedWell)
    (hrest : Walks r run env (index + 1) b.left later rest begun y) :
    Walks r run env index x (.elapsed :: (telling ++ b.calls ++ later)) (b.step :: rest)
      (b :: begun) y

variable {steps : List Step} {begun : List (Begun W)} {start : Double}

/-- After a step that does not end well nothing more is begun. -/
theorem walks_last (hr : r.Plain) {step : Step} {ended : Result (Outcome × Gathered)}
    (rest : List Step)
    (h : (r.startStep run index step g).Runs env (env .elapsed x).2 calls ended y)
    (hbad : ¬ ∃ outcome g, ended = .ok (outcome, g) ∧ outcome.failure? = none) :
    ∃ begun, Walks r run env index x (.elapsed :: calls) (step :: rest) begun y := by
  rcases runs_bind.mp h with ⟨_, telling, performing, told, rfl, htell, hperform⟩ | ⟨_, -, htell⟩
  · have hcarries := carries_performStep hr hperform
    let b : Begun W := ⟨step, told, performing, ended, y⟩
    exact ⟨_, .last b rest htell ⟨⟨g, hperform⟩, hcarries, hcarries.acts⟩ hbad⟩
  · exact ⟨[], .untold rest htell⟩

theorem performSteps_walks (hr : r.Plain) {result : Result (Option Failure × Gathered)}
    (h : (r.performSteps run start index g steps).Runs env x calls result y) :
    ∃ begun, Walks r run env index x calls steps begun y := by
  induction steps generalizing index g x calls with
  | nil =>
    obtain ⟨rfl, -, rfl⟩ := runs_done.mp h
    exact ⟨[], .finished index y⟩
  | cons step rest ih =>
    rw [performSteps_cons] at h
    obtain ⟨calls, rfl, hturn⟩ := elapsed_bind_runs.mp h
    split at hturn
    · obtain ⟨rfl, -, rfl⟩ := runs_done.mp hturn
      exact ⟨[], .late index x step rest⟩
    rcases runs_bind.mp hturn with ⟨⟨outcome, g'⟩, first, later, z, rfl, hstep, hafter⟩ |
      ⟨fault, -, hstep⟩
    · cases houtcome : outcome.failure? with
      | some failure =>
        cases outcome with
        | fatal f =>
          obtain ⟨rfl, -, rfl⟩ := runs_done.mp hafter
          rw [List.append_nil]
          exact walks_last hr rest hstep (by simp [Outcome.failure?])
        | ok | recovered => cases houtcome
      | none =>
        have hnext : (r.performSteps run start (index + 1) g' rest).Runs env z later result y := by
          cases outcome with
          | fatal => cases houtcome
          | ok | recovered => exact hafter
        obtain ⟨begun, hwalks⟩ := ih hnext
        obtain ⟨_, telling, performing, told, rfl, htell, hperform⟩ := runs_bind_ok.mp hstep
        have hcarries := carries_performStep hr hperform
        let b : Begun W := ⟨step, told, performing, .ok (outcome, g'), z⟩
        exact ⟨_, .next b htell ⟨⟨g, hperform⟩, hcarries, hcarries.acts⟩
          ⟨outcome, g', rfl, houtcome⟩ hwalks⟩
    · exact walks_last hr rest hstep (by simp)

theorem Walks.ordered (h : Walks r run env index x calls steps begun y) :
    begun.map (·.step) <+: steps := by
  induction h with
  | finished | late | untold => exact List.nil_prefix
  | last b rest => exact ⟨rest, rfl⟩
  | next b _ _ _ _ ih => simpa using ih

theorem Walks.tells (h : Walks r run env index x calls steps begun y) {i : Nat} {b : Begun W}
    (hb : begun[i]? = some b) : b.Tells r run env (index + i) := by
  induction h generalizing i with
  | finished | late | untold => cases hb
  | last b rest _ htells =>
    cases i with
    | zero =>
      cases hb
      exact htells
    | succ i => cases hb
  | next b _ htells _ _ ih =>
    cases i with
    | zero =>
      cases hb
      exact htells
    | succ i =>
      rw [← Nat.add_assoc, Nat.add_right_comm]
      exact ih hb

theorem acts_announceStep (hr : r.Plain) {step : Step} {result : Result Unit}
    (h : (r.announceStep run index step).Runs env x calls result y) :
    calls.filter Ask.acts = [] := by
  refine List.filter_eq_nil_iff.mpr fun q hq => ?_
  have htells := (Progress.confined_announce hr.channel _ _ _ _ _).asked h q hq
  exact Bool.eq_false_iff.mp htells.pauses.idles.1

/-- Nothing is done to the page but in the steps. -/
theorem Walks.acts (hr : r.Plain) (h : Walks r run env index x calls steps begun y) :
    calls.filter Ask.acts = begun.flatMap fun b => b.calls.filter Ask.acts := by
  induction h with
  | finished => rfl
  | late => rfl
  | untold _ htell => simp [Ask.acts, acts_announceStep hr htell]
  | last b _ htell => simp [Ask.acts, acts_announceStep hr htell]
  | next b htell _ _ _ ih => simp [Ask.acts, acts_announceStep hr htell, ih]

/-- What was done on a page, by the steps that were begun: the first of `steps`, each of which acts
at most once. An address was opened for each of them that has one, and no other. -/
structure ActsInOrder (r : Runner) (run : Run) (env : Responses State Ask Ask.Reply W)
    (steps : List Step) (calls : List Ask) (begun : List (Begun W)) : Prop where
  ordered : begun.map (·.step) <+: steps
  tells : ∀ (i : Nat) (b : Begun W), begun[i]? = some b → b.Tells r run env i
  acts : calls.filter Ask.acts = begun.flatMap fun b => b.calls.filter Ask.acts
  opened : calls.filter Ask.opens = begun.filterMap fun b => r.opening? run.page b.step.action
  clicked : (calls.filter Ask.clicks).Sublist
    (begun.filterMap fun b => r.clicking? run.page b.step.action)

/-- It is enough to know of the questions that act. -/
theorem Walks.actsInOrder (h : Walks r run env 0 x calls steps begun y) {all : List Ask}
    (hacts : all.filter Ask.acts = begun.flatMap fun b => b.calls.filter Ask.acts) :
    ActsInOrder r run env steps all begun := by
  have honce : ∀ b ∈ begun, ActsOnce r run.page b.step.action (b.calls.filter Ask.acts) := by
    intro b hb
    obtain ⟨i, hi⟩ := List.mem_iff_getElem?.mp hb
    exact (h.tells hi).actsOnce
  refine ⟨h.ordered, fun i b hb => by simpa using h.tells hb, hacts, ?_, ?_⟩
  · have hopens : all.filter Ask.opens = (all.filter Ask.acts).filter Ask.opens := by
      rw [List.filter_filter]
      refine List.filter_congr fun q _ => ?_
      rw [q.acts_eq]
      cases q.opens <;> rfl
    rw [hopens, hacts, List.filter_flatMap, List.filterMap_eq_flatMap_toList]
    exact List.flatMap_congr fun b hb => (honce b hb).opened
  · have hclicks : all.filter Ask.clicks = (all.filter Ask.acts).filter Ask.clicks := by
      rw [List.filter_filter]
      refine List.filter_congr fun q _ => ?_
      rw [q.acts_eq]
      cases q.opens <;> cases q.clicks <;> rfl
    rw [hclicks, hacts, List.filter_flatMap, List.filterMap_eq_flatMap_toList]
    exact List.Sublist.flatMap_right _ fun b hb => (honce b hb).clicked

/-- What a run does on pages. One that got no page, or could not make it ready, does nothing; any
other acts in the order of its steps. -/
inductive Conducts (r : Runner) (w : Workflow) (context : TaskContext)
    (env : Responses State Ask Ask.Reply W) (x : W × State) (calls : List Ask) : Prop where
  | unpaged {acquiring : List Ask} {fault : Fault} {got : W × State}
    (hacquire : r.acquire.Runs env (env .elapsed (env .now x).2).2 acquiring (.error fault) got)
    (hnothing : calls.filter Ask.acts = [])
  | unready {page : PageRef} {acquiring preparing : List Ask} {fault : Fault} {got left : W × State}
    (hacquire : r.acquire.Runs env (env .elapsed (env .now x).2).2 acquiring (.ok page) got)
    (hprepare : (prepare ⟨context.taskId, page, (w.resolve context).length⟩).Runs env got preparing
      (.error fault) left)
    (hnothing : calls.filter Ask.acts = [])
  | paged {page : PageRef} {acquiring preparing looping closing : List Ask}
    {got opened stop : W × State} {begun : List (Begun W)}
    (hacquire : r.acquire.Runs env (env .elapsed (env .now x).2).2 acquiring (.ok page) got)
    (hprepare : (prepare ⟨context.taskId, page, (w.resolve context).length⟩).Runs env got preparing
      (.ok ()) opened)
    (hparts : calls = .now :: .elapsed :: (acquiring ++ preparing ++ looping ++ closing))
    (hwalks : Walks r ⟨context.taskId, page, (w.resolve context).length⟩ env 0 opened looping
      (w.resolve context) begun stop)
    (hacts : ActsInOrder r ⟨context.taskId, page, (w.resolve context).length⟩ env
      (w.resolve context) calls begun)

theorem acts_of_confined {α : Type} {p : Activity α} {asks : Ask → Prop}
    {writes : State → State → Prop} {result : Result α} (hp : p.Confined asks writes)
    (hasks : ∀ q, asks q → q.acts = false) (h : p.Runs env x calls result y) :
    calls.filter Ask.acts = [] :=
  List.filter_eq_nil_iff.mpr fun q hq => Bool.eq_false_iff.mp (hasks q (hp.asked h q hq))

theorem acts_prepare {result : Result Unit} (h : (prepare run).Runs env x calls result y) :
    calls.filter Ask.acts = [] :=
  acts_of_confined (confined_prepare run) (by rintro _ (rfl | ⟨event, rfl⟩) <;> rfl) h

theorem acts_handBack (hr : r.Plain) {result : Result Unit}
    (h : (r.handBack run).Runs env x calls result y) : calls.filter Ask.acts = [] := by
  have hhands : (r.handBack run).Confined (fun q => q.acts = false) fun _ _ => True := by
    have hrelease : (r.release run.page).Confined (fun q => q.acts = false) fun _ _ => True := by
      rw [hr.release]
      refine (Session.confined_release run.page).mono ?_ fun _ _ => False.elim
      rintro _ (rfl | rfl) <;> rfl
    refine Confined.bind ((Network.confined_detach run.page).mono ?_ fun _ _ _ => trivial)
      fun _ => confined_ite ((confined_update fun _ => trivial).bind fun _ => hrelease) hrelease
    rintro _ ⟨event, rfl⟩
    rfl
  exact acts_of_confined hhands (fun _ => id) h

theorem acts_conclude (hr : r.Plain) {w : Workflow} {context : TaskContext} {startedAt : Int}
    {start : Double} {failure : Option Failure} {result : Result Execution}
    (h : (r.conclude w context startedAt start failure g).Runs env x calls result y) :
    calls.filter Ask.acts = [] := by
  refine acts_of_confined (confined_conclude hr _ _ _ _) ?_ h
  rintro q (rfl | htells)
  · rfl
  · exact htells.pauses.idles.1

theorem acts_acquire (hr : r.Plain) {result : Result PageRef}
    (h : r.acquire.Runs env x calls result y) : calls.filter Ask.acts = [] := by
  obtain ⟨o, ho⟩ := hr.acquire
  rw [ho] at h
  refine acts_of_confined (Session.confined_acquire o) (fun q hq => ?_) h
  rcases hq with ⟨ticket, rfl⟩ | hopens
  · rfl
  · cases q with
    | page page call =>
      cases call with
      | setTimeout | setNavigationTimeout => rfl
      | _ => exact hopens.elim
    | _ => rfl

theorem Closes.acts (hr : r.Plain) {w : Workflow} {context : TaskContext} {startedAt : Int}
    {loop : Result (Option Failure × Gathered)} {result : Result Execution}
    (h : Closes r run w context env startedAt start loop x calls result y) :
    calls.filter Ask.acts = [] := by
  cases h with
  | concluded hback hend => simp [acts_handBack hr hback, acts_conclude hr hend]
  | broken hback => exact acts_handBack hr hback

/-- No pause makes a run repeat what it did: in every run, an address is opened exactly once for
each step begun that has one, an element clicked at most once for each step begun that clicks, in
the order of the steps. What a step does after a pause that was resumed is, at most, to wait once more
for the element that did not come. -/
theorem execute_actsOnce (hr : r.Plain) {w : Workflow} {context : TaskContext}
    {result : Result Execution} (h : (r.execute w context).Runs env x calls result y) :
    Conducts r w context env x calls := by
  have hwhole := h
  rw [execute_eq] at h
  obtain ⟨_, rfl, hstart⟩ := runs_ask.mp h
  obtain ⟨_, rfl, hbegun⟩ := runs_ask.mp hstart
  simp only [Program.bind_eq_bind, Program.bind] at hbegun
  obtain ⟨page, acquiring, rest, got, rfl, hacquire, hpaged⟩ := runs_attempt_bind.mp hbegun
  have hacquired := acts_acquire hr hacquire
  cases page with
  | error fault =>
    refine .unpaged hacquire ?_
    cases fault with
    | cancelled =>
      obtain ⟨rfl, -, -⟩ := runs_fail.mp hpaged
      simp [Ask.acts, hacquired]
    | _ => simp [Ask.acts, hacquired, acts_conclude hr hpaged]
  | ok page =>
    have hready := runs_run env (prepare ⟨context.taskId, page, (w.resolve context).length⟩) got
    rcases hresult : ((prepare ⟨context.taskId, page, (w.resolve context).length⟩).run env got).1
      with fault | _
    · rw [hresult] at hready
      refine .unready hacquire hready ?_
      have hrest : rest.filter Ask.acts = [] := by
        dsimp only at hpaged
        rw [onPage_eq, Program.bind_assoc] at hpaged
        rcases runs_bind.mp hpaged with ⟨_, _, _, _, rfl, hprepare, -⟩ | ⟨_, -, hprepare⟩
        · cases (hready.unique hprepare).2.1
        · exact acts_prepare hprepare
      simp [Ask.acts, hacquired, hrest]
    · rw [hresult] at hready
      obtain ⟨loop, looping, stop, closing, hparts, hloop, hcloses⟩ :=
        execute_closes hwhole hacquire hready
      obtain ⟨begun, hwalks⟩ := performSteps_walks hr hloop
      refine .paged hacquire hready hparts hwalks (hwalks.actsInOrder ?_)
      rw [hparts, ← hwalks.acts hr]
      simp [Ask.acts, hacquired, acts_prepare hready, hcloses.acts hr]

/-! ## A target that is overlaid -/

/-- An overlay comes up when an element is waited for first, and keeps all elements from being seen
until an operator has resolved it. -/
inductive Overlay where
  | absent
  | shown
  | resolved
deriving DecidableEq

def overlaid : Responses State Ask Ask.Reply Overlay
  | .page _ (.goto _ _), x => (.ok (), x)
  | .page page (.waitFor selector _), (.resolved, s) => (.ok (some ⟨page, selector⟩), .resolved, s)
  | .page _ (.waitFor _ _), (_, s) => (.ok none, .shown, s)
  | .await (.settled _) _, (_, s) =>
    (.ok true, .resolved,
      { s with board := ((s.board.handle? "t").bind s.board.accept?).getD s.board })
  | q, (overlay, s) => (obliging (overlay = .shown) q, overlay, s)

def openThenClick : Workflow :=
  { sampleWorkflow with
    steps := [⟨"", .navigate "https://example.test/" ""⟩, ⟨"", .click "#open"⟩]
    steps_ne := by simp }

/-- The address or selector of a question that opens, waits or clicks. -/
def seeks? : Ask → Option String
  | .page _ (.goto url _) => some url
  | .page _ (.waitFor selector _) | .page _ (.click selector _) => some selector
  | _ => none

/-- The address is opened, and the target waited for twice and clicked once. -/
theorem execute_actsOnce_overlaid : ∃ calls e y,
    (sampleService.runner.execute openThenClick sampleContext).Runs overlaid (.absent, {}) calls
        (.ok e) y ∧
      Conducts sampleService.runner openThenClick sampleContext overlaid (.absent, {}) calls ∧
      calls.filterMap seeks? = ["https://example.test/", "#open", "#open", "#open"] ∧
      e.failure = none := by
  have hended : ((sampleService.runner.execute openThenClick sampleContext).run overlaid
      (.absent, {})).1.toOption.map (fun e => e.failure) = some none := by decide +kernel
  have hruns := runs_run overlaid (sampleService.runner.execute openThenClick sampleContext)
    (.absent, {})
  rcases hresult : ((sampleService.runner.execute openThenClick sampleContext).run overlaid
      (.absent, {})).1 with fault | e
  · rw [hresult] at hended
    cases hended
  rw [hresult] at hended hruns
  have hplain : sampleService.runner.Plain := by
    refine plain_service _ fun c hc => ?_
    cases hc
    rfl
  exact ⟨_, e, _, hruns, execute_actsOnce hplain hruns, by decide +kernel,
    Option.some.inj hended⟩

end Pageflow.Runner
