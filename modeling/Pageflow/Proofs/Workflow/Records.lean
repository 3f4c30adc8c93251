import Pageflow.Proofs.Json.Table
import Pageflow.Proofs.Workflow.Products

/-! The steps of a run one after the other, each with what was asked for it and what it
produced. The result of the run is put together from the products alone. -/
namespace Pageflow

namespace Runner

/-- A step that was carried out: what was asked to announce it and for itself, where that
began and ended, and what came of it. -/
structure Record (W : Type) where
  step : Step
  before : W × State
  telling : List Ask
  begun : W × State
  calls : List Ask
  after : W × State
  outcome : Outcome
  product : Product

variable {W : Type} (r : Runner) (run : Run) (env : Responses State Ask Ask.Reply W)

/-- The clock is looked at for a step, and the step announced. -/
def Tells (index : Nat) (step : Step) (x : W × State) (telling : List Ask) (y : W × State) : Prop :=
  ∃ rest, telling = .elapsed :: rest ∧
    (r.announce run .running index
      (if step.description.isEmpty then step.action.name else step.description)).Runs env
      (env .elapsed x).2 rest (.ok ()) y

/-- The steps from `index` on went well, each where the one before it had ended. -/
inductive Went : Nat → W × State → List (Record W) → W × State → Prop where
  | nil (index : Nat) (x : W × State) : Went index x [] x
  | cons {index : Nat} (record : Record W) {records : List (Record W)} {y : W × State}
    {g g' : Gathered} (htells : Tells r run env index record.step record.before record.telling
      record.begun)
    (hperform : (r.perform run index g record.step.action).Runs env record.begun record.calls
      (.ok (record.outcome, g')) record.after)
    (hmakes : Makes r run env record.begun record.calls record.outcome record.product record.after
      record.step.action)
    (hrest : Went (index + 1) record.after records y) :
    Went index record.before (record :: records) y

/-- How a run ends before the steps that are left: it has none left, it is out of time, or
the next one fails. -/
inductive Stops (index : Nat) :
    List Step → W × State → List Ask → Option Failure → W × State → Prop where
  | finished (x : W × State) : Stops index [] x [] none x
  | late (step : Step) (rest : List Step) (x : W × State) (active : Double) :
    Stops index (step :: rest) x [.elapsed] (some (r.timeFailure run index step active))
      (env .elapsed x).2
  | failed {step : Step} (rest : List Step) {x begun y : W × State} {telling calls : List Ask}
    {g : Gathered} {fault : Fault} (htells : Tells r run env index step x telling begun)
    (hfails : (r.perform run index g step.action).Runs env begun calls (.error fault) y) :
    Stops index (step :: rest) x (telling ++ calls) (some (step.failure index fault)) y

/-- What is gathered from records, on top of what was there. -/
structure Sums (records : List (Record W)) (g g' : Gathered) : Prop where
  data : g'.data = (records.filterMap fun d => d.product.datum?).foldl
    (fun data datum => Json.setKey datum.1 datum.2 data) g.data
  screenshots : g'.screenshots = g.screenshots ++ records.filterMap fun d => d.product.picture?

section

variable {r run env} {x y : W × State} {calls : List Ask} {g g' : Gathered}
  {failure : Option Failure} {index : Nat} {start : Double}

open Program

theorem sums_cons {d : Record W} {records : List (Record W)} {g₁ : Gathered}
    (hadds : Adds d.product g g₁) (hsums : Sums records g₁ g') : Sums (d :: records) g g' := by
  constructor
  · rw [hsums.data, hadds.data]
    cases hdatum : d.product.datum? <;> simp [hdatum]
  · rw [hsums.screenshots, hadds.screenshots]
    cases hpicture : d.product.picture? <;> simp [hpicture]

theorem performStep_runs {step : Step} {outcome : Outcome}
    (h : (r.performStep run index step g).Runs env x calls (.ok (outcome, g')) y) :
    (r.perform run index g step.action).Runs env x calls (.ok (outcome, g')) y ∨
      ∃ fault, outcome = .fatal (step.failure index fault) ∧ g' = g ∧
        (r.perform run index g step.action).Runs env x calls (.error fault) y := by
  rcases runs_rescueIf_ok.mp h with hgood | ⟨fault, first, rest, z, -, rfl, hbad, hrecover⟩
  · exact .inl hgood
  · obtain ⟨rfl, hresult, rfl⟩ := runs_done.mp hrecover
    cases hresult
    rw [List.append_nil]
    exact .inr ⟨fault, rfl, rfl, hbad⟩

/-- Every question of the loop belongs to a step that went well or to the one at which it stops. -/
theorem performSteps_runs {steps : List Step}
    (h : (r.performSteps run start index g steps).Runs env x calls (.ok (failure, g')) y) :
    ∃ records stopped left ending, Went r run env index x records stopped ∧
      Stops r run env (index + records.length) left stopped ending failure y ∧
      steps = records.map (·.step) ++ left ∧
      calls = (records.flatMap fun d => d.telling ++ d.calls) ++ ending ∧ Sums records g g' := by
  induction steps generalizing index g x calls with
  | nil =>
    obtain ⟨rfl, hresult, rfl⟩ := runs_done.mp h
    cases hresult
    exact ⟨[], y, [], [], .nil _ _, .finished y, rfl, rfl, rfl, by simp⟩
  | cons step rest ih =>
    unfold performSteps at h
    obtain ⟨later, rfl, hlater⟩ := runs_ask.mp h
    simp only [Program.bind_eq_bind, Program.bind] at hlater
    split at hlater
    · obtain ⟨rfl, hresult, rfl⟩ := runs_done.mp hlater
      cases hresult
      exact ⟨[], x, step :: rest, [.elapsed], .nil _ _, .late step rest x _, rfl, rfl, rfl, by simp⟩
    · obtain ⟨_, telling, _, begun, rfl, htold, hbegun⟩ := runs_bind_ok.mp hlater
      obtain ⟨⟨outcome, g₁⟩, calls, later, after, rfl, hstep, hafter⟩ := runs_bind_ok.mp hbegun
      have htells : Tells r run env index step x (.elapsed :: telling) begun :=
        ⟨telling, rfl, htold⟩
      rcases performStep_runs hstep with hgood | ⟨fault, rfl, rfl, hbad⟩
      · -- a step that was carried out is not fatal, so the loop goes on
        obtain ⟨product, hmakes, hadds⟩ := perform_makes hgood
        have hnext : (r.performSteps run start (index + 1) g₁ rest).Runs env after later
            (.ok (failure, g')) y := by
          cases outcome with
          | fatal => cases hmakes.fits.1
          | ok | recovered => exact hafter
        obtain ⟨records, stopped, left, ending, hwent, hstops, rfl, rfl, hsums⟩ := ih hnext
        refine ⟨⟨step, x, .elapsed :: telling, begun, calls, after, outcome, product⟩ :: records,
          stopped, left, ending, .cons ⟨_, _, _, _, _, _, _, _⟩ htells hgood hmakes hwent, ?_, rfl,
          by simp, sums_cons hadds hsums⟩
        rwa [List.length_cons, Nat.add_comm records.length 1, ← Nat.add_assoc]
      · obtain ⟨rfl, hresult, rfl⟩ := runs_done.mp hafter
        cases hresult
        exact ⟨[], x, step :: rest, .elapsed :: telling ++ calls, .nil _ _,
          .failed rest htells hbad, rfl, by simp, rfl, by simp⟩

end

end Runner
end Pageflow
