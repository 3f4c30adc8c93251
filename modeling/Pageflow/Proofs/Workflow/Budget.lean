import Mathlib.Algebra.Group.Subgroup.ZPowers.Basic
import Pageflow.Proofs.Workflow.Results
import Pageflow.Proofs.Workflow.Stays

/-! The time a run may take counts without the pauses that were resumed. Step by step, the seconds
that the run compares with its budget are the time since it began less the stays so far. -/
namespace Pageflow.Runner

open Browser Program

variable {W : Type}

/-- A step is told of and carried out. -/
def startStep (r : Runner) (run : Run) (index : Nat) (step : Step) (g : Gathered) :
    Activity (Outcome × Gathered) := do
  r.announce run .running index
    (if step.description.isEmpty then step.action.name else step.description)
  r.performStep run index step g

/-- What became of a step of a run when its turn came. -/
structure Slot (W : Type) where
  step : Step
  /-- How things stand when the clock is read to see whether there is time for the step. -/
  reached : W × State
  started : Bool
  /-- What was asked after the clock was read. -/
  calls : List Ask
  stays : List (Stay W)
  /-- How the step ended, or the fault that broke the run off. -/
  result : Result (Outcome × Gathered)
  left : W × State

/-- The step ended ok or recovered. -/
def Slot.EndedWell (s : Slot W) : Prop :=
  ∃ outcome g, s.result = .ok (outcome, g) ∧ outcome.failure? = none

/-- What is in a slot is what the run did there. -/
structure Slot.Tells (s : Slot W) (r : Runner) (run : Run) (env : Responses State Ask Ask.Reply W)
    (index : Nat) : Prop where
  started : s.started = true → ∃ g, (r.startStep run index s.step g).Runs env
    (env .elapsed s.reached).2 s.calls s.result s.left
  late : s.started = false → s.calls = [] ∧ s.left = (env .elapsed s.reached).2 ∧
    ∃ active g, s.result = .ok (.fatal (r.timeFailure run index s.step active), g)
  /-- After it was told of, the step went through its stays and no other pause. -/
  stays : s.EndedWell → ∃ telling stepping told, s.calls = telling ++ stepping ∧
    (r.announce run .running index
      (if s.step.description.isEmpty then s.step.action.name else s.step.description)).Runs env
      (env .elapsed s.reached).2 telling (.ok ()) told ∧
    Passage r run env index told stepping s.stays s.left

section

variable (r : Runner) (run : Run) (env : Responses State Ask Ask.Reply W) (time : W → ℚ)

/-- The steps from `index` on have their slots one after the other. A step is started if the time
that has passed since `origin` is within the budget; a stay moves the origin by its length. -/
inductive Slots : ℕ → ℚ → W × State → List Step → List (Slot W) →
    Result (Option Failure × Gathered) → W × State → Prop where
  | done (index : ℕ) (origin : ℚ) (x : W × State) (g : Gathered) :
    Slots index origin x [] [] (.ok (none, g)) x
  | last {index : ℕ} {origin : ℚ} (s : Slot W) (rest : List Step) (htells : s.Tells r run env index)
    (hbudget : s.started = true ↔ time s.reached.1 - origin < r.settings.runner.maxDurationSec)
    (hended : ¬ s.EndedWell) :
    Slots index origin s.reached (s.step :: rest) [s]
      ((fun p => (p.1.failure?, p.2)) <$> s.result) s.left
  | next {index : ℕ} {origin : ℚ} (s : Slot W) {rest : List Step} {slots : List (Slot W)}
    {result : Result (Option Failure × Gathered)} {y : W × State}
    (htells : s.Tells r run env index) (hended : s.EndedWell)
    (hbudget : s.started = true ↔ time s.reached.1 - origin < r.settings.runner.maxDurationSec)
    (hstays : total time s.stays ≤ time s.left.1 - time s.reached.1)
    (hrest : Slots (index + 1) (origin + total time s.stays) s.left rest slots result y) :
    Slots index origin s.reached (s.step :: rest) (s :: slots) result y

end

/-- The time from `begun` to the turn of step `i`, less the stays of the steps before. -/
def active (time : W → ℚ) (begun : ℚ) (slots : List (Slot W)) (i : ℕ) : ℚ :=
  match slots[i]? with
  | some s => time s.reached.1 - begun - total time ((slots.take i).flatMap (·.stays))
  | none => 0

variable {r : Runner} {run : Run} {env : Responses State Ask Ask.Reply W} {time : W → ℚ}
  {x y : W × State} {calls : List Ask} {index : ℕ} {origin : ℚ} {steps : List Step}
  {slots : List (Slot W)} {result : Result (Option Failure × Gathered)}

/-! ## The loop -/

/-- Within the budget the exact comparison and the one the run makes agree. -/
theorem atLeast_active (hclock : ExactClock env time) {begun : W} {start : Double} {g : Gathered}
    {paused : ℚ} (hstart : start.value? = some (time begun))
    (hbanked : Banked time begun x g paused) (budget : ℤ) :
    ((env .elapsed x).1 - start - g.pausedSec).atLeast budget = true ↔
      ¬ time x.1 - (time begun + paused) < budget := by
  have hpassed : time begun ≤ time x.1 := by linarith [hbanked.nonneg, hbanked.le]
  have hsince := hclock.value?_sub (hclock.shows x) hstart (span_sub hpassed)
  have hspan : Span time (time x.1 - time begun - paused) := by
    refine ⟨sub_mem (span_sub hpassed).mem hbanked.mem, sub_nonneg.mpr hbanked.le, x.1, begun, ?_⟩
    linarith [hbanked.nonneg]
  rw [Double.atLeast_eq_decide (hclock.value?_sub hsince hbanked.value hspan), decide_eq_true_iff,
    not_lt, sub_sub]

theorem startStep_endsWell (hclock : ExactClock env time) {begun : W} {step : Step}
    {g g' : Gathered} {paused : ℚ} {outcome : Outcome} (hbanked : Banked time begun x g paused)
    (h : (r.startStep run index step g).Runs env x calls (.ok (outcome, g')) y)
    (hended : outcome.failure? = none) :
    ∃ stays telling stepping told, calls = telling ++ stepping ∧
      (r.announce run .running index
        (if step.description.isEmpty then step.action.name else step.description)).Runs env
        x telling (.ok ()) told ∧
      Passage r run env index told stepping stays y ∧
      Banked time begun y g' (paused + total time stays) := by
  obtain ⟨_, telling, stepping, told, rfl, htell, hstep⟩ := runs_bind_ok.mp h
  rcases performStep_runs hstep with hgood | ⟨fault, rfl, -, -⟩
  · obtain ⟨stays, hpassage, hkept⟩ :=
      perform_passage hclock (hbanked.later (hclock.le_of_runs htell)) hgood
    exact ⟨stays, telling, stepping, told, rfl, htell, hpassage, hkept⟩
  · cases hended

/-- One turn of the loop, then the rest of it. -/
theorem performSteps_cons (start : Double) (index : ℕ) (g : Gathered) (step : Step)
    (rest : List Step) : r.performSteps run start index g (step :: rest) =
      Activity.elapsed.bind fun now =>
        if (now - start - g.pausedSec).atLeast r.settings.runner.maxDurationSec then
          .done (some (r.timeFailure run index step (now - start - g.pausedSec)), g)
        else (r.startStep run index step g).bind fun
          | (.fatal failure, g) => .done (some failure, g)
          | (_, g) => r.performSteps run start (index + 1) g rest := by
  rw [performSteps]
  refine congrArg (Program.bind Activity.elapsed) (funext fun now => ?_)
  unfold startStep
  simp only [Program.bind_eq_bind, Program.bind_assoc]
  rfl

theorem slots_late {active : Double} {g : Gathered} (step : Step) (rest : List Step)
    (hlate : ¬ time x.1 - origin < r.settings.runner.maxDurationSec) :
    Slots r run env time index origin x (step :: rest)
      [⟨step, x, false, [], [], .ok (.fatal (r.timeFailure run index step active), g),
        (env .elapsed x).2⟩]
      (.ok (some (r.timeFailure run index step active), g)) (env .elapsed x).2 := by
  let s : Slot W := ⟨step, x, false, [], [],
    .ok (.fatal (r.timeFailure run index step active), g), (env .elapsed x).2⟩
  have hended : ¬ s.EndedWell := by
    rintro ⟨_, _, hresult, hgood⟩
    cases hresult
    cases hgood
  have htells : s.Tells r run env index :=
    ⟨nofun, fun _ => ⟨rfl, rfl, active, g, rfl⟩, fun hwell => absurd hwell hended⟩
  exact .last s rest htells ⟨nofun, fun hearly => absurd hearly hlate⟩ hended

/-- A step that fails or is broken off is the last that is started. -/
theorem slots_bad {step : Step} {g : Gathered} {ended : Result (Outcome × Gathered)}
    (rest : List Step) (hearly : time x.1 - origin < r.settings.runner.maxDurationSec)
    (hstep : (r.startStep run index step g).Runs env (env .elapsed x).2 calls ended y)
    (hbad : ¬ ∃ outcome g, ended = .ok (outcome, g) ∧ outcome.failure? = none) :
    Slots r run env time index origin x (step :: rest) [⟨step, x, true, calls, [], ended, y⟩]
      ((fun p => (p.1.failure?, p.2)) <$> ended) y := by
  let s : Slot W := ⟨step, x, true, calls, [], ended, y⟩
  have htells : s.Tells r run env index :=
    ⟨fun _ => ⟨g, hstep⟩, nofun, fun hwell => absurd hwell hbad⟩
  exact .last s rest htells ⟨fun _ => hearly, fun _ => rfl⟩ hbad

/-- Every question of the loop belongs to a slot. -/
theorem performSteps_slots (hclock : ExactClock env time) {begun : W} {start : Double}
    (hstart : start.value? = some (time begun)) {g : Gathered} {paused : ℚ}
    (hbanked : Banked time begun x g paused)
    (h : (r.performSteps run start index g steps).Runs env x calls result y) :
    ∃ slots, Slots r run env time index (time begun + paused) x steps slots result y ∧
      calls = slots.flatMap fun s => .elapsed :: s.calls := by
  induction steps generalizing index g x calls paused with
  | nil =>
    obtain ⟨rfl, rfl, rfl⟩ := runs_done.mp h
    exact ⟨[], .done _ _ _ g, rfl⟩
  | cons step rest ih =>
    rw [performSteps_cons] at h
    obtain ⟨calls, rfl, hturn⟩ := elapsed_bind_runs.mp h
    have hbudget := atLeast_active hclock hstart hbanked r.settings.runner.maxDurationSec
    split at hturn
    · rename_i hlate
      obtain ⟨rfl, rfl, rfl⟩ := runs_done.mp hturn
      exact ⟨_, slots_late step rest (hbudget.mp hlate), rfl⟩
    rename_i hlate
    have hearly := not_not.mp (mt hbudget.mpr hlate)
    have hbegun := hbanked.later (hclock.forward .elapsed x)
    rcases runs_bind.mp hturn with ⟨⟨outcome, g'⟩, first, later, z, rfl, hstep, hafter⟩ |
      ⟨fault, rfl, hstep⟩
    · cases houtcome : outcome.failure? with
      | some failure =>
        -- the run keeps what the failed step had gathered, and ends
        cases outcome with
        | fatal f =>
          obtain ⟨rfl, rfl, rfl⟩ := runs_done.mp hafter
          exact ⟨_, slots_bad rest hearly hstep (by simp [Outcome.failure?]), by simp⟩
        | ok | recovered => cases houtcome
      | none =>
        obtain ⟨stays, telling, stepping, told, rfl, htell, hpassage, hkept⟩ :=
          startStep_endsWell hclock hbegun hstep houtcome
        have hnext : (r.performSteps run start (index + 1) g' rest).Runs env z later result y := by
          cases outcome with
          | fatal => cases houtcome
          | ok | recovered => exact hafter
        obtain ⟨slots, hslots, rfl⟩ := ih hkept hnext
        let s : Slot W := ⟨step, x, true, telling ++ stepping, stays, .ok (outcome, g'), z⟩
        have htells : s.Tells r run env index :=
          ⟨fun _ => ⟨g, hstep⟩, nofun, fun _ => ⟨telling, stepping, told, rfl, htell, hpassage⟩⟩
        have hstays : total time s.stays ≤ time s.left.1 - time s.reached.1 := by
          have hlength := (hpassage.total_le hclock).2
          have htold := hclock.le_of_runs htell
          have hread := hclock.forward .elapsed x
          simp only [s]
          linarith
        rw [← add_assoc] at hslots
        exact ⟨s :: slots, .next s htells ⟨outcome, g', rfl, houtcome⟩
          ⟨fun _ => hearly, fun _ => rfl⟩ hstays hslots, by simp [s]⟩
    · exact ⟨_, slots_bad rest hearly hstep (by simp), by simp⟩

/-! ## Step by step -/

@[simp] theorem active_zero (time : W → ℚ) (begun : ℚ) (s : Slot W) (slots : List (Slot W)) :
    active time begun (s :: slots) 0 = time s.reached.1 - begun := by
  simp [active]

/-- The stays of the first step are as if the run had begun later. -/
@[simp] theorem active_succ (time : W → ℚ) (begun : ℚ) (s : Slot W) (slots : List (Slot W))
    (i : ℕ) : active time begun (s :: slots) (i + 1) =
      active time (begun + total time s.stays) slots i := by
  unfold active
  rw [List.getElem?_cons_succ]
  cases slots[i]? with
  | none => rfl
  | some t =>
    simp only [List.take_succ_cons, List.flatMap_cons, total_append]
    ring

theorem Slots.at (h : Slots r run env time index origin x steps slots result y) {i : ℕ}
    {s : Slot W} (hs : slots[i]? = some s) :
    steps[i]? = some s.step ∧ s.Tells r run env (index + i) ∧
      (s.started = true ↔ active time origin slots i < r.settings.runner.maxDurationSec) := by
  induction h generalizing i with
  | done => simp at hs
  | last t rest htells hbudget hended =>
    cases i with
    | zero =>
      cases hs
      exact ⟨rfl, htells, by rwa [active_zero]⟩
    | succ i => simp at hs
  | next t htells hended hbudget hstays hrest ih =>
    cases i with
    | zero =>
      cases hs
      exact ⟨rfl, htells, by rwa [active_zero]⟩
    | succ i =>
      rw [active_succ, ← Nat.add_assoc, Nat.add_right_comm]
      exact ih hs

/-- The turn of a step comes if and only if all steps before it have ended well. -/
theorem Slots.reached_iff (h : Slots r run env time index origin x steps slots result y) {i : ℕ}
    (hi : i < steps.length) :
    (∃ s, slots[i]? = some s) ↔ ∀ j < i, ∃ s, slots[j]? = some s ∧ s.EndedWell := by
  induction h generalizing i with
  | done => simp at hi
  | last t rest htells hbudget hended =>
    cases i with
    | zero => simp
    | succ i =>
      simp only [List.getElem?_cons_succ, List.getElem?_nil, reduceCtorEq, exists_false, false_iff]
      intro hwell
      obtain ⟨s, hs, hgood⟩ := hwell 0 (Nat.succ_pos i)
      cases hs
      exact hended hgood
  | next t htells hended hbudget hstays hrest ih =>
    cases i with
    | zero => simp
    | succ i =>
      rw [Nat.forall_lt_succ_left']
      simp only [List.getElem?_cons_zero, List.getElem?_cons_succ, Option.some.injEq]
      rw [ih (by simpa using hi)]
      exact ⟨fun hwell => ⟨⟨t, rfl, hended⟩, hwell⟩, fun hwell => hwell.2⟩

/-- A run that is out of time fails there. -/
theorem Slots.late (h : Slots r run env time index origin x steps slots result y) {i : ℕ}
    {s : Slot W} (hs : slots[i]? = some s) (hlate : s.started = false) :
    ∃ f g, result = .ok (some f, g) ∧ f.kind = .timeout ∧
      f.stepIndex = some ((index + i : ℕ) : ℤ) := by
  induction h generalizing i with
  | done => simp at hs
  | last t rest htells hbudget hended =>
    cases i with
    | zero =>
      cases hs
      obtain ⟨-, -, active, g, hresult⟩ := htells.late hlate
      rw [hresult]
      exact ⟨_, g, rfl, rfl, rfl⟩
    | succ i => simp at hs
  | next t htells hended hbudget hstays hrest ih =>
    cases i with
    | zero =>
      cases hs
      obtain ⟨-, -, active, g, hresult⟩ := htells.late hlate
      obtain ⟨_, _, hgood, hnone⟩ := hended
      rw [hresult] at hgood
      cases hgood
      cases hnone
    | succ i =>
      rw [← Nat.add_assoc, Nat.add_right_comm]
      exact ih hs

/-- No step has less active time before it than the first, for no stay is longer than the step that
makes it. -/
theorem Slots.le_active (h : Slots r run env time index origin x steps slots result y) {i : ℕ}
    (hi : i < slots.length) : time x.1 - origin ≤ active time origin slots i := by
  induction h generalizing i with
  | done => simp at hi
  | last t rest htells hbudget hended =>
    obtain rfl : i = 0 := by simpa using hi
    rw [active_zero]
  | next t htells hended hbudget hstays hrest ih =>
    cases i with
    | zero => rw [active_zero]
    | succ i =>
      have hlater := ih (i := i) (by simpa using hi)
      rw [active_succ]
      linarith

theorem Slots.active_mono (h : Slots r run env time index origin x steps slots result y)
    {i j : ℕ} (hij : i ≤ j) (hj : j < slots.length) :
    active time origin slots i ≤ active time origin slots j := by
  induction h generalizing i j with
  | done => simp at hj
  | last t rest htells hbudget hended =>
    obtain rfl : j = 0 := by simpa using hj
    rw [Nat.le_zero.mp hij]
  | next t htells hended hbudget hstays hrest ih =>
    cases i with
    | zero =>
      rw [active_zero]
      exact (Slots.next t htells hended hbudget hstays hrest).le_active hj
    | succ i =>
      obtain ⟨j, rfl⟩ : ∃ k, j = k + 1 := ⟨j - 1, by omega⟩
      rw [active_succ, active_succ]
      exact ih (by omega) (by simpa using hj)

/-! ## Runs -/

/-- What the budget of a run means for its steps: `slots` are their turns, `failure` is what the
loop ends with, and time is counted from `begun`. -/
structure KeepsBudget (r : Runner) (run : Run) (env : Responses State Ask Ask.Reply W)
    (time : W → ℚ) (begun : ℚ) (steps : List Step) (slots : List (Slot W))
    (result : Result (Option Failure × Gathered)) : Prop where
  tells : ∀ (i : ℕ) (s : Slot W), slots[i]? = some s → steps[i]? = some s.step ∧ s.Tells r run env i
  /-- A step is started if all before it ended well and there is active time left for it. -/
  started : ∀ i < steps.length, (∃ s, slots[i]? = some s ∧ s.started = true) ↔
    (∀ j < i, ∃ s, slots[j]? = some s ∧ s.EndedWell) ∧
      active time begun slots i < r.settings.runner.maxDurationSec
  /-- A step that is not started although all before it ended well asks for nothing, and the run
  fails there. -/
  late : ∀ i < steps.length, (∀ j < i, ∃ s, slots[j]? = some s ∧ s.EndedWell) →
    ¬ active time begun slots i < r.settings.runner.maxDurationSec →
      (∃ s, slots[i]? = some s ∧ s.calls = []) ∧
      ∃ f g, result = .ok (some f, g) ∧ f.kind = .timeout ∧ f.stepIndex = some (i : ℤ)
  nonneg : ∀ i < slots.length, 0 ≤ active time begun slots i
  mono : ∀ i j, i ≤ j → j < slots.length → active time begun slots i ≤ active time begun slots j

theorem Slots.keepsBudget (h : Slots r run env time 0 origin x steps slots result y)
    (horigin : origin ≤ time x.1) : KeepsBudget r run env time origin steps slots result where
  tells i s hs := by
    obtain ⟨hstep, htells, -⟩ := h.at hs
    exact ⟨hstep, by simpa using htells⟩
  started i hi := by
    rw [← h.reached_iff hi]
    constructor
    · rintro ⟨s, hs, hstarted⟩
      exact ⟨⟨s, hs⟩, (h.at hs).2.2.mp hstarted⟩
    · rintro ⟨⟨s, hs⟩, hactive⟩
      exact ⟨s, hs, (h.at hs).2.2.mpr hactive⟩
  late i hi hwell hactive := by
    obtain ⟨s, hs⟩ := (h.reached_iff hi).mpr hwell
    obtain ⟨-, htells, hstarted⟩ := h.at hs
    have hlate : s.started = false := Bool.eq_false_iff.mpr (mt hstarted.mp hactive)
    refine ⟨⟨s, hs, (htells.late hlate).1⟩, ?_⟩
    simpa using h.late hs hlate
  nonneg i hi := (sub_nonneg.mpr horigin).trans (h.le_active hi)
  mono i j hij hj := h.active_mono hij hj

/-- The time budget counts active time only: in every run that got its page and made it ready,
however it ends, a step is started exactly if all steps before it ended well and the time since the
run began, less the checkpoints that paused and were resumed, is below the budget. -/
theorem execute_budget (hclock : ExactClock env time) {w : Workflow} {context : TaskContext}
    {page : PageRef} {acquiring preparing : List Ask} {got opened : W × State}
    {ended : Result Execution} (h : (r.execute w context).Runs env x calls ended y)
    (hacquire : r.acquire.Runs env (env .elapsed (env .now x).2).2 acquiring (.ok page) got)
    (hprepare : (prepare ⟨context.taskId, page, (w.resolve context).length⟩).Runs env got preparing
      (.ok ()) opened) :
    ∃ (slots : List (Slot W)) (closing : List Ask) (loop : Result (Option Failure × Gathered)),
      calls = .now :: .elapsed :: (acquiring ++ preparing ++
        (slots.flatMap fun s => .elapsed :: s.calls) ++ closing) ∧
      KeepsBudget r ⟨context.taskId, page, (w.resolve context).length⟩ env time
        (time (env .now x).2.1) (w.resolve context) slots loop ∧
      ∀ e, ended = .ok e → ∃ g, loop = .ok (e.failure, g) := by
  obtain ⟨loop, looping, stop, closing, rfl, hloop, hcloses⟩ := execute_closes h hacquire hprepare
  have hopened : time (env .now x).2.1 ≤ time opened.1 :=
    ((hclock.forward .elapsed _).trans (hclock.le_of_runs hacquire)).trans
      (hclock.le_of_runs hprepare)
  have hnothing : Banked time (env .now x).2.1 opened {} 0 := by
    refine ⟨?_, zero_mem _, le_rfl, sub_nonneg.mpr hopened⟩
    decide +kernel
  obtain ⟨slots, hslots, rfl⟩ :=
    performSteps_slots hclock (hclock.shows (env .now x).2) hnothing hloop
  rw [add_zero] at hslots
  refine ⟨slots, closing, loop, rfl, hslots.keepsBudget hopened, ?_⟩
  rintro e rfl
  exact hcloses.failure

/-! ## A pause longer than the budget -/

/-- A challenge is shown until an operator has resolved it. -/
def slowOperator : Responses State Ask Ask.Reply Bool
  | .elapsed, (resolved, s) => (.finite (if resolved then 700 else 0), resolved, s)
  | .await (.settled _) _, (_, s) =>
    (.ok true, true,
      { s with board := ((s.board.handle? "t").bind s.board.accept?).getD s.board })
  | q, (resolved, s) => (obliging (!resolved) q, resolved, s)

def slowTime (resolved : Bool) : ℚ := if resolved then 700 else 0

theorem exactClock_slowOperator : ExactClock slowOperator slowTime where
  shows x := rfl
  forward q x := by
    unfold slowOperator
    split
    · exact le_rfl
    · rename_i resolved s
      cases resolved <;> simp [slowTime]
    · exact le_rfl
  exact length hspan := by
    have hmultiple : length ∈ AddSubgroup.zmultiples (700 : ℚ) := by
      refine AddSubgroup.closure_le _ |>.mpr ?_ hspan.mem
      rintro _ ⟨resolved, rfl⟩
      cases resolved with
      | false => exact zero_mem _
      | true => exact AddSubgroup.mem_zmultiples _
    obtain ⟨k, rfl⟩ := AddSubgroup.mem_zmultiples_iff.mp hmultiple
    have hnonneg := hspan.nonneg
    obtain ⟨v, w, hbounded⟩ := hspan.bounded
    have hone : (k : ℚ) * 700 ≤ 700 := by
      rw [← zsmul_eq_mul]
      refine hbounded.trans ?_
      cases v <;> cases w <;> norm_num [slowTime]
    rw [zsmul_eq_mul] at hnonneg ⊢
    have hk : k = 0 ∨ k = 1 := by
      have hlow : (0 : ℚ) ≤ k := by linarith
      have hhigh : (k : ℚ) ≤ 1 := by linarith
      norm_cast at hlow hhigh
      omega
    rcases hk with rfl | rfl <;> decide +kernel

def pausingRunner : Runner :=
  { pagedRunner with coordinator := some (.ofSettings sampleSettings.challenge) }

def clickTwice : Workflow :=
  { sampleWorkflow with
    steps := [⟨"", .click "#open"⟩, ⟨"", .click "#next"⟩]
    steps_ne := by simp }

/-- The pause after the first click takes longer than the whole run may, and yet the second click
has all its time. -/
theorem execute_budget_clickTwice : ∃ calls e y slots,
    (pausingRunner.execute clickTwice sampleContext).Runs slowOperator (false, {}) calls (.ok e) y ∧
      (∃ loop, KeepsBudget pausingRunner ⟨"t", ⟨0⟩, 2⟩ slowOperator slowTime 0
        (clickTwice.resolve sampleContext) slots loop) ∧
      e.failure = none ∧ pausingRunner.settings.runner.maxDurationSec < slowTime y.1 := by
  have hended : ((pausingRunner.execute clickTwice sampleContext).run slowOperator
      (false, {})).1.toOption.map (fun e => e.failure) = some none := by decide +kernel
  have hruns := runs_run slowOperator (pausingRunner.execute clickTwice sampleContext) (false, {})
  rcases hresult : ((pausingRunner.execute clickTwice sampleContext).run slowOperator
      (false, {})).1 with fault | e
  · rw [hresult] at hended
    cases hended
  rw [hresult] at hended hruns
  obtain ⟨slots, _, loop, -, hbudget, -⟩ := execute_budget exactClock_slowOperator hruns
    (runs_done.mpr ⟨rfl, rfl, rfl⟩) (runs_run slowOperator (prepare ⟨"t", ⟨0⟩, 2⟩) (false, {}))
  exact ⟨_, e, _, slots, hruns, ⟨loop, hbudget⟩, Option.some.inj hended, by decide +kernel⟩

end Pageflow.Runner
