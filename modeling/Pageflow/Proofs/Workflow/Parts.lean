import Pageflow.Proofs.Capture.Upkeep
import Pageflow.Proofs.Challenge.Inspect
import Pageflow.Selector.Extraction
import Pageflow.Workflow.Run

/-! The parts of a step: whatever a call keeps up, it keeps up through a step if it does so
through the pauses that the step may make. -/
namespace Pageflow

open Browser

variable {W α Φ : Type} {u : Upkeep W α Φ}

theorem kept_readElement (element : ElementRef) : u.Kept (readElement element) :=
  kept_bind (element.kept_call _) fun _ => kept_done _

theorem kept_extractDirect (page : PageRef) (timeoutMs : Int) (selector : String) :
    u.Kept (extractDirect page timeoutMs selector) := by
  refine kept_ite (kept_done _) (kept_bind_attempt (page.kept_call _) fun result hfine => ?_)
  split
  · exact kept_readElement _
  · exact kept_done _
  · exact kept_done _
  · exact kept_fault hfine

theorem kept_extract (page : PageRef) (timeoutMs : Int) (e : Expression) :
    u.Kept (extract page timeoutMs e) := by
  refine kept_rescueIf ?_ fun _ => kept_done _
  cases e with
  | direct selector => exact kept_extractDirect page timeoutMs selector
  | nextSibling anchor child => exact kept_bind (page.kept_call _) fun _ => kept_done _
  | ancestor anchor child => exact kept_bind (page.kept_call _) fun _ => kept_done _

namespace Runner

variable {r : Runner} {run : Run} {index : Nat}

theorem kept_picture (selector : String) (stitched : Bool) :
    u.Kept (r.picture run selector stitched) :=
  kept_ite (kept_ite (kept_fail rfl) (Capture.kept_captureLong _ _ _))
    (kept_ite
      (kept_bind (Capture.kept_scrollToBottom _ _ _) fun _ => run.page.kept_call _)
      (kept_bind (run.page.kept_waitVisible _ _) fun element => element.kept_call _))

theorem kept_store (name : String) (data : Capture.Picture) (hint : String) :
    u.Kept (store name data hint) :=
  kept_rescueIf (kept_question fun _ => id) fun _ => kept_fail rfl

theorem kept_fillSources (sources : List Source) (text : String) :
    u.Kept (r.fillSources run sources text) := by
  induction sources generalizing text with
  | nil => exact kept_done _
  | cons source rest ih =>
    refine kept_bind (kept_extract _ _ _) fun extraction => ?_
    cases extraction with
    | value found => exact ih _
    | miss reason => exact kept_bind (ih _) fun _ => kept_done _

theorem kept_screenshot (selector : String) (stitched : Bool) (saveAs : String) (g : Gathered) :
    u.Kept (r.screenshot run selector stitched saveAs g) := by
  have hnamed : ∀ name, u.Kept ((r.picture run selector stitched).bind fun data =>
      (store name data (storageHint r.settings.storage.keyPrefix run.taskId name)).bind fun url =>
        .done (Outcome.ok url, g.addScreenshot ⟨name, url⟩)) := fun name =>
    kept_bind (kept_picture selector stitched) fun _ =>
      kept_bind (kept_store _ _ _) fun _ => kept_done _
  unfold screenshot
  dsimp only
  exact kept_ite (kept_bind (kept_bind Activity.kept_wall fun _ => kept_done _) hnamed)
    (hnamed saveAs)

section

variable {broken : Φ → W × State → W × State → Prop}
  (hbroken : u.cancels → ∀ φ before now, u.holds φ before now → broken φ before now)
include hbroken

/-- A look for challenges that pauses only where it finds one. -/
theorem breaks_look {c : Pause.Coordinator} {taskId : String} {page : Option PageRef}
    {stepIndex totalSteps : Int}
    (hpause : u.Breaks broken (c.pause taskId page stepIndex totalSteps)) :
    u.Breaks broken (c.checkpoint taskId page stepIndex totalSteps) :=
  breaks_bind ((c.detector.kept_inspect _).breaks hbroken) fun _ =>
    breaks_ite (breaks_bind hpause fun _ => (kept_done _).breaks hbroken)
      ((kept_done _).breaks hbroken)

variable (hlooks : ∀ c ∈ r.coordinator,
  u.Breaks broken (c.checkpoint run.taskId (some run.page) index run.totalSteps))

section

include hlooks

theorem breaks_checkpoint : u.Breaks broken (r.checkpoint run index) := by
  have hend : ∀ pause : Option Double, u.Breaks broken (.done pause) :=
    fun _ => (kept_done _).breaks hbroken
  unfold checkpoint
  split
  · exact hend none
  · rename_i c hc
    exact breaks_bind (Activity.kept_elapsed.breaks hbroken) fun _ =>
      breaks_bind (hlooks c hc) fun _ => breaks_ite
        ((kept_bind Activity.kept_elapsed fun _ => kept_done _).breaks hbroken) (hend none)

theorem breaks_waitThroughPause (selector : String) (timeoutMs : Int) :
    u.Breaks broken (r.waitThroughPause run index selector timeoutMs) := by
  refine breaks_bind_attempt (run.page.kept_waitVisible _ _) fun result hfine => ?_
  split
  · exact (kept_done _).breaks hbroken
  · refine breaks_bind (breaks_checkpoint hbroken hlooks) fun paused => ?_
    cases paused with
    | none => exact (kept_fail rfl).breaks hbroken
    | some seconds =>
      exact (kept_bind (run.page.kept_waitVisible _ _) fun _ => kept_done _).breaks hbroken
  · exact (kept_fault hfine).breaks hbroken

theorem breaks_navigate (url readySelector : String) (g : Gathered) :
    u.Breaks broken (r.navigate run index url readySelector g) := by
  refine breaks_bind ((run.page.kept_call _).breaks hbroken) fun _ =>
    breaks_bind (breaks_checkpoint hbroken hlooks) fun _ => ?_
  dsimp only
  generalize (if readySelector.isEmpty then r.settings.runner.readySelector else readySelector) =
    marker
  exact breaks_ite ((kept_done _).breaks hbroken) (breaks_bind (breaks_rescueIf rfl
    (breaks_waitThroughPause hbroken hlooks _ _) fun _ => (kept_fail rfl).breaks hbroken)
      fun _ => (kept_done _).breaks hbroken)

theorem breaks_click (selector : String) (g : Gathered) :
    u.Breaks broken (r.click run index selector g) :=
  breaks_bind (breaks_waitThroughPause hbroken hlooks _ _) fun _ =>
    breaks_bind ((run.page.kept_call _).breaks hbroken) fun _ =>
      breaks_bind (breaks_checkpoint hbroken hlooks) fun _ => (kept_done _).breaks hbroken

theorem breaks_perform (g : Gathered) (action : Action) :
    u.Breaks broken (r.perform run index g action) := by
  cases action with
  | navigate url ready => exact breaks_navigate hbroken hlooks url ready g
  | click selector => exact breaks_click hbroken hlooks selector g
  | wait ms => exact (kept_bind (Activity.kept_sleepMs _) fun _ => kept_done _).breaks hbroken
  | waitForSelector selector =>
    exact (kept_bind (run.page.kept_waitVisible _ _) fun _ => kept_done _).breaks hbroken
  | screenshot selector stitched saveAs => exact (kept_screenshot _ _ _ g).breaks hbroken
  | scrollPage selector =>
    exact (kept_bind (Capture.kept_scrollToBottom _ _ _) fun _ => kept_done _).breaks hbroken
  | waitForNetworkIdle idleMs timeoutMs _ =>
    exact (kept_bind (Network.kept_waitForIdle _ _) fun _ => kept_done _).breaks hbroken
  | extractData selector dataName =>
    exact (kept_bind (kept_extract _ _ _) fun _ => kept_done _).breaks hbroken
  | compositeExtract template sources dataName =>
    exact (kept_bind (kept_fillSources sources template) fun _ => kept_done _).breaks hbroken

theorem breaks_performStep (step : Step) (g : Gathered) :
    u.Breaks broken (r.performStep run index step g) :=
  breaks_rescueIf rfl (breaks_perform hbroken hlooks g step.action) fun _ =>
    (kept_done _).breaks hbroken

end

theorem breaks_performSteps (hlooks : ∀ c ∈ r.coordinator, ∀ index : Nat,
      u.Breaks broken (c.checkpoint run.taskId (some run.page) index run.totalSteps))
    (hannounce : ∀ status index message, u.Kept (r.announce run status index message))
    (start : Double) (index : Nat) (g : Gathered) (steps : List Step) :
    u.Breaks broken (r.performSteps run start index g steps) := by
  induction steps generalizing index g with
  | nil => exact (kept_done _).breaks hbroken
  | cons step rest ih =>
    refine breaks_bind (Activity.kept_elapsed.breaks hbroken) fun _ =>
      breaks_ite ((kept_done _).breaks hbroken) ?_
    refine breaks_bind ((hannounce _ _ _).breaks hbroken) fun _ => ?_
    refine breaks_bind (breaks_performStep hbroken (fun c hc => hlooks c hc index) step g)
      fun ⟨outcome, g⟩ => ?_
    cases outcome with
    | fatal failure => exact (kept_done _).breaks hbroken
    | ok | recovered => exact ih _ _

end

end Runner
end Pageflow
