import Mathlib.Algebra.Group.Subgroup.Lattice
import Pageflow.Proofs.Number.Double
import Pageflow.Proofs.Workflow.Products
import Pageflow.Proofs.Workflow.Routine

/-! The pauses inside a step, and the seconds a run keeps of them. A step that ends well has gone
through work and through checkpoints that paused and were resumed, and what the run adds to its
paused time is the length of these checkpoints, on a clock whose arithmetic is exact. -/
namespace Pageflow

open Browser Program

variable {W : Type}

/-! ## Exact clocks -/

/-- A length of time a clock can tell: it is made of readings, is not negative, and is no longer
than from one reading to another. -/
structure Span (time : W → ℚ) (length : ℚ) : Prop where
  mem : length ∈ AddSubgroup.closure (Set.range time)
  nonneg : 0 ≤ length
  bounded : ∃ v w, length ≤ time v - time w

/-- The clock shows the time of the world, is never set back, and doubles hold every length of
time it can tell. -/
structure ExactClock (env : Responses State Ask Ask.Reply W) (time : W → ℚ) : Prop where
  shows : ∀ x, (env .elapsed x).1.value? = some (time x.1)
  forward : ∀ q x, time x.1 ≤ time (env q x).2.1
  exact : ∀ length, Span time length → Double.nearest length = .finite length

theorem mem_closure_time (time : W → ℚ) (v : W) : time v ∈ AddSubgroup.closure (Set.range time) :=
  AddSubgroup.subset_closure ⟨v, rfl⟩

theorem span_sub {time : W → ℚ} {v w : W} (h : time w ≤ time v) : Span time (time v - time w) where
  mem := sub_mem (mem_closure_time time v) (mem_closure_time time w)
  nonneg := sub_nonneg.mpr h
  bounded := ⟨v, w, le_rfl⟩

namespace ExactClock

variable {env : Responses State Ask Ask.Reply W} {time : W → ℚ}

/-- Time passes while a program runs, whatever it does. -/
theorem le_of_runs {α : Type} (h : ExactClock env time) {p : Activity α} {x y : W × State}
    {calls : List Ask} {result : Result α} (hruns : p.Runs env x calls result y) :
    time x.1 ≤ time y.1 := by
  have hpasses : ∀ (p : Activity α) x, time x.1 ≤ time (p.run env x).2.1 := by
    intro p
    induction p with
    | done value => exact fun x => le_rfl
    | fail fault => exact fun x => le_rfl
    | read next ih => exact fun x => ih x.2 x
    | write s next ih => exact fun x => ih (x.1, s)
    | ask q next ih => exact fun x => (h.forward q x).trans (ih (env q x).1 (env q x).2)
  have hle := hpasses p x
  rwa [hruns.run] at hle

theorem value?_sub (h : ExactClock env time) {d e : Double} {p q : ℚ} (hd : d.value? = some p)
    (he : e.value? = some q) (hspan : Span time (p - q)) : (d - e).value? = some (p - q) :=
  Double.value?_sub hd he (h.exact _ hspan)

theorem value?_add (h : ExactClock env time) {d e : Double} {p q : ℚ} (hd : d.value? = some p)
    (he : e.value? = some q) (hspan : Span time (p + q)) : (d + e).value? = some (p + q) :=
  Double.value?_add hd he (h.exact _ hspan)

end ExactClock

namespace Runner

/-! ## Stays -/

/-- A checkpoint that paused and was resumed, from one look at the clock to the other. -/
structure Stay (W : Type) where
  begun : W × State
  calls : List Ask
  ended : W × State

def Stay.length (time : W → ℚ) (s : Stay W) : ℚ := time s.ended.1 - time s.begun.1

/-- The length of all stays together. -/
def total (time : W → ℚ) (stays : List (Stay W)) : ℚ := (stays.map (Stay.length time)).sum

@[simp] theorem total_nil (time : W → ℚ) : total time [] = 0 := rfl

@[simp] theorem total_singleton (time : W → ℚ) (s : Stay W) : total time [s] = s.length time := by
  simp [total]

@[simp] theorem total_append (time : W → ℚ) (stays stays' : List (Stay W)) :
    total time (stays ++ stays') = total time stays + total time stays' := by
  simp [total]

/-- What a step goes through on the way to a good end, with the questions asked and the stays
made: work that asks for no pause, and checkpoints that paused and were resumed. -/
inductive Passage (r : Runner) (run : Run) (env : Responses State Ask Ask.Reply W) (index : Nat) :
    W × State → List Ask → List (Stay W) → W × State → Prop where
  | work {α : Type} {p : Activity α} {x y : W × State} {calls : List Ask} {result : Result α}
    (hruns : p.Runs env x calls result y) (hworks : ∀ q ∈ calls, q.Works) :
    Passage r run env index x calls [] y
  | stay {c : Pause.Coordinator} {x y : W × State} {calls : List Ask} (hc : c ∈ r.coordinator)
    (hruns : (c.checkpoint run.taskId (some run.page) index run.totalSteps).Runs env
      (env .elapsed x).2 calls (.ok true) y) :
    Passage r run env index x (.elapsed :: (calls ++ [.elapsed])) [⟨x, calls, y⟩] (env .elapsed y).2
  | trans {x y z : W × State} {calls calls' : List Ask} {stays stays' : List (Stay W)}
    (hfirst : Passage r run env index x calls stays y)
    (hrest : Passage r run env index y calls' stays' z) :
    Passage r run env index x (calls ++ calls') (stays ++ stays') z

/-- What a checkpoint tells of its length: nothing if there was no stay. -/
inductive Counts (time : W → ℚ) : Option Double → List (Stay W) → Prop where
  | none : Counts time none []
  | some {d : Double} {s : Stay W} (hd : d.value? = some (s.length time)) : Counts time (some d) [s]

/-- The seconds that a run has kept of its pauses are `paused`, and no more than have passed. -/
structure Banked (time : W → ℚ) (begun : W) (x : W × State) (g : Gathered) (paused : ℚ) :
    Prop where
  value : g.pausedSec.value? = some paused
  mem : paused ∈ AddSubgroup.closure (Set.range time)
  nonneg : 0 ≤ paused
  le : paused ≤ time x.1 - time begun

variable {r : Runner} {run : Run} {env : Responses State Ask Ask.Reply W} {time : W → ℚ}
  {index : Nat} {x y : W × State} {calls : List Ask} {stays : List (Stay W)} {g g' : Gathered}
  {begun : W} {paused : ℚ}

theorem passage_works {α : Type} {p : Activity α} {result : Result α} (hp : p.Works)
    (hruns : p.Runs env x calls result y) : Passage r run env index x calls [] y :=
  .work hruns (hp.asked hruns)

theorem Passage.le (h : Passage r run env index x calls stays y) (hclock : ExactClock env time) :
    time x.1 ≤ time y.1 := by
  induction h with
  | work hruns => exact hclock.le_of_runs hruns
  | stay hc hruns =>
    exact ((hclock.forward _ _).trans (hclock.le_of_runs hruns)).trans (hclock.forward _ _)
  | trans _ _ ihfirst ihrest => exact ihfirst.trans ihrest

/-- No more time is spent in stays than passes. -/
theorem Passage.total_le (h : Passage r run env index x calls stays y)
    (hclock : ExactClock env time) :
    0 ≤ total time stays ∧ total time stays ≤ time y.1 - time x.1 := by
  induction h with
  | work hruns => simpa using hclock.le_of_runs hruns
  | @stay c x y calls hc hruns =>
    have hbegun := hclock.forward .elapsed x
    have hstay := hclock.le_of_runs hruns
    have hended := hclock.forward .elapsed y
    simp only [total_singleton, Stay.length]
    constructor <;> linarith
  | trans _ _ ihfirst ihrest =>
    rw [total_append]
    constructor <;> linarith [ihfirst.1, ihfirst.2, ihrest.1, ihrest.2]

theorem Passage.mem_total (h : Passage r run env index x calls stays y) (time : W → ℚ) :
    total time stays ∈ AddSubgroup.closure (Set.range time) := by
  induction h with
  | work => exact zero_mem _
  | stay =>
    rw [total_singleton]
    exact sub_mem (mem_closure_time time _) (mem_closure_time time _)
  | trans _ _ ihfirst ihrest =>
    rw [total_append]
    exact add_mem ihfirst ihrest

theorem Banked.later (h : Banked time begun x g paused) (hle : time x.1 ≤ time y.1) :
    Banked time begun y g paused :=
  { h with le := h.le.trans (sub_le_sub_right hle _) }

/-- What a checkpoint tells is added to what is kept. -/
theorem Banked.pause (h : Banked time begun x g paused) (hclock : ExactClock env time)
    (hpassage : Passage r run env index x calls stays y) {pause : Option Double}
    (hcounts : Counts time pause stays) :
    Banked time begun y (g.addPause pause) (paused + total time stays) := by
  obtain ⟨hnonneg, hle⟩ := hpassage.total_le hclock
  have hmem := add_mem h.mem (hpassage.mem_total time)
  have hsum : 0 ≤ paused + total time stays := add_nonneg h.nonneg hnonneg
  have hbound : paused + total time stays ≤ time y.1 - time begun := by linarith [h.le]
  refine ⟨?_, hmem, hsum, hbound⟩
  cases hcounts with
  | none =>
    rw [total_nil, add_zero]
    exact h.value
  | some hd =>
    rw [total_singleton] at hmem hsum hbound ⊢
    exact hclock.value?_add h.value hd ⟨hmem, hsum, _, _, hbound⟩

/-! ## Steps -/

theorem coordinator_checkpoint_runs {c : Pause.Coordinator} {taskId : String}
    {page : Option PageRef} {stepIndex totalSteps : Int}
    (h : (c.checkpoint taskId page stepIndex totalSteps).Runs env x calls (.ok false) y) :
    ∀ q ∈ calls, q.Works := by
  obtain ⟨d, inspecting, pausing, z, rfl, hinspect, hrest⟩ := runs_bind_ok.mp h
  have hworks := (c.detector.looks_inspect page).works.asked hinspect
  by_cases hfound : d.isFound = true
  · rw [if_pos hfound] at hrest
    obtain ⟨_, _, _, _, -, -, hdone⟩ := runs_bind_ok.mp hrest
    have hyields := (runs_done.mp hdone).2.1
    rw [hfound] at hyields
    cases hyields
  · rw [if_neg hfound] at hrest
    obtain ⟨rfl, -, -⟩ := runs_done.mp hrest
    rwa [List.append_nil]

theorem elapsed_bind_runs {α : Type} {f : Double → Activity α} {result : Result α} :
    (Activity.elapsed.bind f).Runs env x calls result y ↔ ∃ rest, calls = .elapsed :: rest ∧
      (f (env .elapsed x).1).Runs env (env .elapsed x).2 rest result y :=
  runs_ask

theorem checkpoint_passage (hclock : ExactClock env time) {pause : Option Double}
    (h : (r.checkpoint run index).Runs env x calls (.ok pause) y) :
    ∃ stays, Passage r run env index x calls stays y ∧ Counts time pause stays := by
  have hwhole := h
  unfold checkpoint at h
  split at h
  · obtain ⟨rfl, hpause, rfl⟩ := runs_done.mp h
    cases hpause
    exact ⟨[], .work hwhole (by simp), .none⟩
  · rename_i c hc
    obtain ⟨rest, rfl, hrest⟩ := elapsed_bind_runs.mp h
    obtain ⟨resumed, checking, closing, z, rfl, hcheck, hend⟩ := runs_bind_ok.mp hrest
    cases resumed with
    | false =>
      obtain ⟨rfl, hpause, rfl⟩ := runs_done.mp hend
      cases hpause
      have hworks : ∀ q ∈ .elapsed :: (checking ++ []), q.Works := by
        simpa [Ask.Works] using coordinator_checkpoint_runs hcheck
      exact ⟨[], .work hwhole hworks, .none⟩
    | true =>
      obtain ⟨last, rfl, hlast⟩ := elapsed_bind_runs.mp hend
      obtain ⟨rfl, hpause, rfl⟩ := runs_done.mp hlast
      cases hpause
      have hle : time x.1 ≤ time z.1 :=
        (hclock.forward .elapsed x).trans (hclock.le_of_runs hcheck)
      exact ⟨_, .stay hc hcheck,
        .some (hclock.value?_sub (hclock.shows z) (hclock.shows x) (span_sub hle))⟩

/-- At most one stay is made while an element is waited for. -/
theorem waitThroughPause_passage (hclock : ExactClock env time) {selector : String}
    {timeoutMs : Int} {pause : Option Double}
    (h : (r.waitThroughPause run index selector timeoutMs).Runs env x calls (.ok pause) y) :
    ∃ stays, Passage r run env index x calls stays y ∧ Counts time pause stays := by
  have hwait := (run.page.reads_waitVisible selector timeoutMs).views.works
  obtain ⟨result, waiting, rest, z, rfl, hattempt, hrest⟩ := runs_bind_ok.mp h
  have hfirst : Passage r run env index x waiting [] z := passage_works hwait.attempt hattempt
  split at hrest
  · obtain ⟨rfl, hpause, rfl⟩ := runs_done.mp hrest
    cases hpause
    exact ⟨[], by simpa using hfirst, .none⟩
  · obtain ⟨pause', checking, again, z', rfl, hcheck, hrest⟩ := runs_bind_ok.mp hrest
    obtain ⟨stays, hpassage, hcounts⟩ := checkpoint_passage hclock hcheck
    cases pause' with
    | none => cases (runs_fail.mp hrest).2.1
    | some seconds =>
      obtain ⟨_, waiting', last, z'', rfl, hwaited, hdone⟩ := runs_bind_ok.mp hrest
      obtain ⟨rfl, hpause, rfl⟩ := runs_done.mp hdone
      cases hpause
      have hsecond : Passage r run env index z' waiting' [] y := passage_works hwait hwaited
      refine ⟨stays, ?_, hcounts⟩
      simpa using hfirst.trans (hpassage.trans hsecond)
  · cases (runs_fail.mp hrest).2.1

theorem navigate_passage (hclock : ExactClock env time) {url ready : String} {outcome : Outcome}
    (hbanked : Banked time begun x g paused)
    (h : (r.navigate run index url ready g).Runs env x calls (.ok (outcome, g')) y) :
    ∃ stays, Passage r run env index x calls stays y ∧
      Banked time begun y g' (paused + total time stays) := by
  obtain ⟨_, opening, rest, opened, rfl, hopen, h⟩ := runs_bind_ok.mp h
  obtain ⟨pause, checking, rest, checked, rfl, hcheck, h⟩ := runs_bind_ok.mp h
  have hgoto : Passage r run env index x opening [] opened :=
    passage_works (run.page.works_call id) hopen
  obtain ⟨stays, hpassage, hcounts⟩ := checkpoint_passage hclock hcheck
  have hfirst := hgoto.trans hpassage
  have hkept := (hbanked.later (hgoto.le hclock)).pause hclock hpassage hcounts
  dsimp only at h
  generalize (if ready.isEmpty then r.settings.runner.readySelector else ready) = marker at h
  split at h
  · obtain ⟨rfl, hresult, rfl⟩ := runs_done.mp h
    cases hresult
    exact ⟨stays, by simpa using hfirst, hkept⟩
  · obtain ⟨pause', waiting, last, waited, rfl, hwait, hdone⟩ := runs_bind_ok.mp h
    obtain ⟨rfl, hresult, rfl⟩ := runs_done.mp hdone
    cases hresult
    rcases runs_rescueIf_ok.mp hwait with hwait | ⟨_, _, _, _, -, -, -, hfail⟩
    · obtain ⟨stays', hpassage', hcounts'⟩ := waitThroughPause_passage hclock hwait
      refine ⟨stays ++ stays', by simpa using hfirst.trans hpassage', ?_⟩
      rw [total_append, ← add_assoc]
      exact hkept.pause hclock hpassage' hcounts'
    · cases (runs_fail.mp hfail).2.1

theorem click_passage (hclock : ExactClock env time) {selector : String} {outcome : Outcome}
    (hbanked : Banked time begun x g paused)
    (h : (r.click run index selector g).Runs env x calls (.ok (outcome, g')) y) :
    ∃ stays, Passage r run env index x calls stays y ∧
      Banked time begun y g' (paused + total time stays) := by
  obtain ⟨pause, waiting, rest, waited, rfl, hwait, h⟩ := runs_bind_ok.mp h
  obtain ⟨_, clicking, rest, clicked, rfl, hclick, h⟩ := runs_bind_ok.mp h
  obtain ⟨pause', checking, last, checked, rfl, hcheck, hdone⟩ := runs_bind_ok.mp h
  obtain ⟨rfl, hresult, rfl⟩ := runs_done.mp hdone
  cases hresult
  obtain ⟨stays, hpassage, hcounts⟩ := waitThroughPause_passage hclock hwait
  obtain ⟨stays', hpassage', hcounts'⟩ := checkpoint_passage hclock hcheck
  have hcall : Passage r run env index waited clicking [] clicked :=
    passage_works (run.page.works_call id) hclick
  have hkept := (hbanked.pause hclock hpassage hcounts).later (hcall.le hclock)
  refine ⟨stays ++ stays', by simpa using hpassage.trans (hcall.trans hpassage'), ?_⟩
  rw [total_append, ← add_assoc]
  exact hkept.pause hclock hpassage' hcounts'

theorem pausedSec_screenshot {selector saveAs : String} {stitched : Bool} {outcome : Outcome}
    (h : (r.screenshot run selector stitched saveAs g).Runs env x calls (.ok (outcome, g')) y) :
    g'.pausedSec = g.pausedSec := by
  unfold screenshot at h
  split at h
  · obtain ⟨_, _, hnamed⟩ := runs_ask.mp h
    obtain ⟨_, _, _, _, -, -, -, rfl⟩ := stored_makes hnamed
    rfl
  · obtain ⟨_, _, _, _, -, -, -, rfl⟩ := stored_makes h
    rfl

/-- Only steps that open an address or click keep anything of pauses. -/
theorem pausedSec_perform {action : Action} {outcome : Outcome}
    (hnavigate : ∀ url ready, action ≠ .navigate url ready)
    (hclick : ∀ selector, action ≠ .click selector)
    (h : (r.perform run index g action).Runs env x calls (.ok (outcome, g')) y) :
    g'.pausedSec = g.pausedSec := by
  cases action with
  | navigate url ready => exact absurd rfl (hnavigate url ready)
  | click selector => exact absurd rfl (hclick selector)
  | wait | waitForSelector | scrollPage | waitForNetworkIdle =>
    obtain ⟨_, _, _, _, -, -, hdone⟩ := runs_bind_ok.mp h
    cases (runs_done.mp hdone).2.1
    rfl
  | screenshot selector stitched saveAs => exact pausedSec_screenshot h
  | extractData selector dataName =>
    obtain ⟨extraction, _, _, _, -, -, hdone⟩ := runs_bind_ok.mp h
    cases extraction with
    | _ =>
      cases (runs_done.mp hdone).2.1
      rfl
  | compositeExtract template sources dataName =>
    obtain ⟨_, _, _, _, -, -, hdone⟩ := runs_bind_ok.mp h
    cases (runs_done.mp hdone).2.1
    rfl

/-- A step that ends well adds to the paused time of its run the length of its stays, and nothing
else. -/
theorem perform_passage (hclock : ExactClock env time) {action : Action} {outcome : Outcome}
    (hbanked : Banked time begun x g paused)
    (h : (r.perform run index g action).Runs env x calls (.ok (outcome, g')) y) :
    ∃ stays, Passage r run env index x calls stays y ∧
      Banked time begun y g' (paused + total time stays) := by
  cases action with
  | navigate url ready => exact navigate_passage hclock hbanked h
  | click selector => exact click_passage hclock hbanked h
  | _ =>
    have hworks : Passage r run env index x calls [] y :=
      passage_works (views_perform g (by simp) (by simp)).works h
    have hkept := hbanked.later (hworks.le hclock)
    refine ⟨[], hworks, ?_⟩
    rw [total_nil, add_zero]
    exact { hkept with value := by rw [pausedSec_perform (by simp) (by simp) h, hkept.value] }

end Runner
end Pageflow
