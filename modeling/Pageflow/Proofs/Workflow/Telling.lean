import Pageflow.Proofs.Workflow.Parts
import Pageflow.Proofs.Workflow.Pauses
/-! What is told of a run: each step when it begins, each pause and each resumption, and at last,
once, how the run ended. -/
namespace Pageflow.Runner
open Browser Pause Progress

variable {k : SinkId} {taskId : String} {steps : List Step} {index : Nat} {α β : Type}

theorem partOf_map {p : Activity α} {f : α → β} {fine : β → Prop}
    (hp : (aside k taskId).Kept p) (hf : ∀ value, fine (f value)) :
    PartOf k taskId steps index fine (p.bind fun value => .done (f value)) :=
  partOf_bind (partOf_kept hp) fun value _ => partOf_done (hf value)

/-- The pauses of a runner, if it makes any, are told on the event bus. -/
def PausesOnBus (r : Runner) : Prop := ∀ c, r.coordinator = some c → c.channel = busChannel

variable {r : Runner} {run : Run}

section

variable (hpauses : r.PausesOnBus) (htask : run.taskId = taskId)
  (htotal : run.totalSteps = steps.length)
include hpauses htask htotal

theorem partOf_checkpoint :
    PartOf k taskId steps index (fun _ => True) (r.checkpoint run index) := by
  unfold checkpoint
  split
  · exact partOf_done trivial
  · rename_i c hc
    have hcheck : PartOf k taskId steps index (fun _ => True)
        (c.checkpoint run.taskId (some run.page) index run.totalSteps) := by
      refine partOf_bind (partOf_kept
        (c.detector.kept_inspect _)) fun d _ => ?_
      rw [htask, htotal]
      split
      · exact partOf_bind (partOf_pause (hpauses c hc) _) fun _ _ => partOf_done trivial
      · exact partOf_done trivial
    refine partOf_bind (partOf_kept Activity.kept_elapsed) fun start _ => ?_
    refine partOf_bind hcheck fun paused _ => ?_
    split
    · exact partOf_map Activity.kept_elapsed fun _ => trivial
    · exact partOf_done trivial

theorem partOf_waitThroughPause (selector : String) (timeoutMs : Int) :
    PartOf k taskId steps index (fun _ => True)
      (r.waitThroughPause run index selector timeoutMs) := by
  refine partOf_bind_attempt (run.page.kept_waitVisible _ _)
    fun result hspared => ?_
  split
  · exact partOf_done trivial
  · refine partOf_bind (partOf_checkpoint hpauses htask htotal) fun paused _ => ?_
    cases paused with
    | none => exact partOf_fail rfl
    | some seconds =>
      exact partOf_map (run.page.kept_waitVisible _ _)
        fun _ => trivial
  · exact partOf_fail hspared.not_isCancelled

/-- A step that is not fatal by itself. -/
def Continues (outcome : Outcome × Gathered) : Prop := outcome.1.failure? = none

theorem partOf_navigate (url readySelector : String) (g : Gathered) :
    PartOf k taskId steps index Continues (r.navigate run index url readySelector g) := by
  refine partOf_bind (partOf_kept (run.page.kept_call _))
    fun _ _ => partOf_bind (partOf_checkpoint hpauses htask htotal) fun paused _ => ?_
  dsimp only
  generalize (if readySelector.isEmpty then r.settings.runner.readySelector else readySelector) =
    marker
  split
  · exact partOf_done rfl
  · exact partOf_bind (partOf_rescueIf_fail
      (partOf_waitThroughPause hpauses htask htotal _ _) rfl) fun _ _ => partOf_done rfl

theorem partOf_click (selector : String) (g : Gathered) :
    PartOf k taskId steps index Continues (r.click run index selector g) := by
  refine partOf_bind (partOf_waitThroughPause hpauses htask htotal _ _) fun _ _ => ?_
  refine partOf_bind (partOf_kept (run.page.kept_call _))
    fun _ _ => ?_
  exact partOf_bind (partOf_checkpoint hpauses htask htotal) fun _ _ => partOf_done rfl

end

theorem partOf_screenshot (selector : String) (stitched : Bool) (saveAs : String) (g : Gathered) :
    PartOf k taskId steps index Continues (r.screenshot run selector stitched saveAs g) := by
  have hnamed : ∀ name, PartOf k taskId steps index Continues
      ((r.picture run selector stitched).bind fun data =>
        (store name data (storageHint r.settings.storage.keyPrefix run.taskId name)).bind fun url =>
          .done (.ok url, g.addScreenshot ⟨name, url⟩)) := fun name =>
    partOf_bind (partOf_kept (kept_picture selector stitched)) fun _ _ =>
      partOf_map (kept_store _ _ _) fun _ => rfl
  unfold screenshot
  dsimp only
  split
  · exact partOf_bind (partOf_kept (kept_bind Activity.kept_wall fun _ => kept_done _))
      fun name _ => hnamed name
  · exact hnamed saveAs

theorem keepExtraction_continues (name : String) (g : Gathered) (extraction : Extraction) :
    Continues (r.keepExtraction name g extraction) := by
  cases extraction with
  | value text => rfl
  | miss reason => rfl

theorem partOf_compositeExtract (template : String) (sources : List Source) (dataName : String)
    (g : Gathered) :
    PartOf k taskId steps index Continues
      (r.compositeExtract run template sources dataName g) := by
  refine partOf_map (kept_fillSources sources template) fun ⟨text, misses⟩ => ?_
  unfold Continues
  dsimp only
  split
  · rfl
  · rfl

theorem partOf_perform (hpauses : r.PausesOnBus) (htask : run.taskId = taskId)
    (htotal : run.totalSteps = steps.length) (g : Gathered) (action : Action) :
    PartOf k taskId steps index Continues (r.perform run index g action) := by
  cases action with
  | navigate url ready => exact partOf_navigate hpauses htask htotal url ready g
  | wait ms =>
    exact partOf_map (Activity.kept_sleepMs _) fun _ => rfl
  | waitForSelector selector =>
    exact partOf_map (run.page.kept_waitVisible _ _) fun _ => rfl
  | click selector => exact partOf_click hpauses htask htotal selector g
  | screenshot selector stitched saveAs => exact partOf_screenshot selector stitched saveAs g
  | scrollPage selector =>
    exact partOf_map (Capture.kept_scrollToBottom _ _ _)
      fun _ => rfl
  | waitForNetworkIdle idleMs timeoutMs _ =>
    exact partOf_map (Network.kept_waitForIdle _ _) fun _ => rfl
  | extractData selector dataName =>
    exact partOf_map (kept_extract _ _ _) fun _ => keepExtraction_continues _ _ _
  | compositeExtract template sources dataName =>
    exact partOf_compositeExtract template sources dataName g

end Pageflow.Runner

/-! ## From the first step to the end -/
namespace Pageflow.Runner
open Browser Pause Progress

variable {k : SinkId} {taskId : String} {steps : List Step} {index : Nat} {r : Runner} {run : Run}
  {φ : Phase} {before now : Unit × State} {told : List Event}

/-- A step ends with an outcome, and if that is not fatal no pause is left open. -/
def StepEnds (k : SinkId) (taskId : String) (steps : List Step) (index : Nat)
    (told : List Event) : Ending State Unit (Outcome × Gathered) Phase :=
  fun result _ _ now => ∃ outcome g resumed, ∃ stuck : Bool, result = .ok (outcome, g) ∧
    (∀ f, outcome = .fatal f → f.stepIndex = some ↑index) ∧
    (outcome.failure? = none → stuck = false) ∧
    Sees k taskId now.2 (told ++ toldOfPauses taskId steps.length index resumed ++
      if stuck then [pauseBegins taskId steps.length index] else []) []

/-- The steps end with what was told of a course that fits the failure, if any. -/
def StepsEnd (k : SinkId) (taskId : String) (steps : List Step) :
    Ending State Unit (Option Failure × Gathered) Phase :=
  fun result _ _ now => ∃ failure g, ∃ course : Course, result = .ok (failure, g) ∧
    course.Fits steps failure ∧ Sees k taskId now.2 (course.told taskId steps.length) []

/-- Handing a page back tells of nothing and never fails. -/
theorem keeps_handBack {post : Ending State Unit Unit Phase} (htask : run.taskId = taskId)
    (hrelease : (r.release run.page).Calm (climate k taskId) (Aside k taskId) (· = .ok ()))
    (hsees : Sees k taskId now.2 told [])
    (hpost : ∀ φ before now, Sees k taskId now.2 told [] → post (.ok ()) φ before now) :
    (do
      Network.detach run.page
      if r.coordinator.isSome then
        let _ ← Pause.cancel run.taskId
      r.release run.page : Activity Unit).Keeps (climate k taskId) (runContract k taskId steps)
      post φ before now := by
  have hreleased : ∀ {φ : Phase} {before now : Unit × State}, Sees k taskId now.2 told [] →
      (r.release run.page).Keeps (climate k taskId) (runContract k taskId steps) post φ before
        now := by
    intro φ before now hsees
    refine keeps_going hrelease ?_ hsees
    rintro _ φ before now rfl hsees
    exact hpost φ before now hsees
  refine Program.keeps_bind.mpr (keeps_going
    (Network.calm_detach tolerates_aside spares_climate following_aside _) ?_ hsees)
  rintro _ φ before now rfl hsees
  dsimp only
  split
  · refine hreleased ?_
    rw [htask]
    exact hsees.cancel
  · exact hreleased hsees

section

variable (hpauses : r.PausesOnBus) (htask : run.taskId = taskId)
  (htotal : run.totalSteps = steps.length)
include hpauses htask htotal

theorem keeps_performStep (step : Step) (g : Gathered) (hsees : Sees k taskId now.2 told []) :
    (r.performStep run index step g).Keeps (climate k taskId) (runContract k taskId steps)
      (StepEnds k taskId steps index told) φ before now := by
  have hperform : PartOf k taskId steps index Continues (r.perform run index g step.action) :=
    partOf_perform hpauses htask htotal g step.action
  refine Program.keeps_rescueIf.mpr ((hperform told φ before now hsees).mono ?_)
  rintro (fault | ⟨outcome, g⟩) φ before now hend
  · obtain ⟨hspared, resumed, stuck, hsees⟩ := hend
    simp only [hspared, Bool.not_false, ↓reduceIte]
    refine ⟨_, g, resumed, stuck, rfl, fun f hf => ?_, fun hnone => ?_, hsees⟩
    · cases hf
      rfl
    · cases hnone
  · obtain ⟨hcontinues, resumed, hsees⟩ := hend
    refine ⟨outcome, g, resumed, false, rfl, ?_, fun _ => rfl, ?_⟩
    · rintro f rfl
      cases hcontinues
    · simpa using hsees

theorem keeps_performSteps (hchannel : r.channel = busChannel) (start : Double) (g : Gathered)
    (rest : List Step) (passed : List (Step × Nat)) (hpassed : passed.map Prod.fst ++ rest = steps)
    (hsees : Sees k taskId now.2 (toldOfSteps taskId steps.length 0 passed) []) :
    (r.performSteps run start passed.length g rest).Keeps (climate k taskId)
      (runContract k taskId steps) (StepsEnd k taskId steps) φ before now := by
  -- On the steps that are left; what was told is that of the steps passed.
  induction rest generalizing passed g φ before now with
  | nil =>
    subst hpassed
    refine ⟨none, g, ⟨passed, false⟩, rfl, ?_, ?_⟩
    · exact ⟨⟨[], rfl⟩, fun _ => by simp, fun f hf => by cases hf⟩
    · simpa [Course.told] using hsees
  | cons step rest ih =>
    have hlt : passed.length < steps.length := by
      rw [← hpassed, List.length_append, List.length_map, List.length_cons]
      omega
    refine keeps_bind_ask rfl fun time => ?_
    dsimp only
    split
    · refine ⟨_, g, ⟨passed, false⟩, rfl, ?_, ?_⟩
      · exact Course.fits_before ⟨_, hpassed⟩ hlt rfl
      · simpa [Course.told] using hsees
    refine Program.keeps_bind.mpr ?_
    unfold announce
    rw [hchannel, htask, htotal]
    refine keeps_announce _ _ _ _ (fun y hbegins _ => ?_) hsees
    refine Program.keeps_bind.mpr
      ((keeps_performStep hpauses htask htotal step g hbegins).mono ?_)
    rintro _ φ before now ⟨outcome, g, resumed, stuck, rfl, hfatal, hstuck, hsees⟩
    have hnext : outcome.failure? = none →
        (r.performSteps run start (passed.length + 1) g rest).Keeps (climate k taskId)
          (runContract k taskId steps) (StepsEnd k taskId steps) φ before now := by
      intro hcontinues
      have hpassed' : (passed ++ [(step, resumed)]).map Prod.fst ++ rest = steps := by
        rw [← hpassed, List.map_append, List.append_assoc]
        rfl
      have hsees' : Sees k taskId now.2
          (toldOfSteps taskId steps.length 0 (passed ++ [(step, resumed)])) [] := by
        rw [hstuck hcontinues] at hsees
        rw [toldOfSteps_append]
        simpa [toldOfSteps, stepBegins] using hsees
      rw [show passed.length + 1 = (passed ++ [(step, resumed)]).length by simp]
      exact ih g _ hpassed' hsees'
    cases outcome with
    | ok detail => exact hnext rfl
    | recovered detail => exact hnext rfl
    | fatal f =>
      refine ⟨some f, g, ⟨passed ++ [(step, resumed)], stuck⟩, rfl, ?_, ?_⟩
      · rw [← hpassed]
        exact Course.fits_during (hfatal f rfl) stuck
      · rw [Course.told_append]
        exact hsees

theorem keeps_onPage (hchannel : r.channel = busChannel) (start : Double)
    (hrelease : (r.release run.page).Calm (climate k taskId) (Aside k taskId) (· = .ok ()))
    (hsees : Sees k taskId now.2 [] []) :
    (r.onPage run start steps).Keeps (climate k taskId) (runContract k taskId steps)
      (StepsEnd k taskId steps) φ before now := by
  refine Program.keeps_bind.mpr (keeps_going
    (Network.calm_watch tolerates_aside spares_climate following_aside _) ?_ hsees)
  rintro _ φ before now rfl hsees
  refine Program.keeps_bind.mpr (keeps_going
    (Network.calm_attach tolerates_aside spares_climate following_aside tells_climate _) ?_ hsees)
  rintro _ φ before now rfl hsees
  refine Program.keeps_ensure.mpr ((keeps_performSteps hpauses htask htotal hchannel start {} steps
    [] rfl hsees).mono ?_)
  rintro _ φ before now ⟨failure, g, course, rfl, hfits, hsees⟩
  refine keeps_handBack htask hrelease hsees fun φ before now hsees => ?_
  exact ⟨failure, g, course, rfl, hfits, hsees⟩

end

/-- What a runner is made of: it tells on the event bus, pages are opened and handed
back beside the task, and handing one back never fails. -/
structure Serves (r : Runner) (k : SinkId) (taskId : String) : Prop where
  channel : r.channel = busChannel
  pauses : r.PausesOnBus
  acquire : r.acquire.Calm (climate k taskId) (Aside k taskId) Uncancelled
  release : ∀ page, (r.release page).Calm (climate k taskId) (Aside k taskId) (· = .ok ())

/-- A run has told of a course and of its end, and ends well. -/
def RunEnds (k : SinkId) (taskId : String) (steps : List Step) :
    Ending State Unit Execution Phase :=
  fun result _ _ now => ∃ (e : Execution) (course : Course), result = .ok e ∧
    course.Fits steps e.failure ∧ Sees k taskId now.2
      (course.told taskId steps.length ++ [closing taskId steps.length e.failure]) []

theorem keeps_closing (w : Workflow) {context : TaskContext} (hchannel : r.channel = busChannel)
    {failure : Option Failure} {course : Course} (hfits : course.Fits steps failure)
    (g : Gathered) (startedAt : Int) (start : Double)
    (hsees : Sees k context.taskId now.2 (course.told context.taskId steps.length) []) :
    (do
      let duration := (← Activity.elapsed) - start
      let completedAt ← Activity.now
      let tell := Progress.announce r.channel context.taskId
      match failure with
      | none => tell .completed steps.length steps.length "Workflow completed"
      | some f => tell .failed (f.stepIndex.getD 0) steps.length f.message
      return ⟨context.taskId, w.id, g.data, g.screenshots, failure, startedAt, completedAt,
        duration⟩ : Activity Execution).Keeps (climate k context.taskId)
      (runContract k context.taskId steps) (RunEnds k context.taskId steps) φ before now := by
  rw [hchannel]
  refine keeps_bind_ask rfl fun stop => keeps_bind_ask rfl fun completedAt => ?_
  cases failure with
  | none =>
    refine Program.keeps_bind.mpr (keeps_announce _ _ _ _ (fun y hsees _ => ?_) hsees)
    exact ⟨_, course, rfl, hfits, hsees⟩
  | some f =>
    refine Program.keeps_bind.mpr (keeps_announce _ _ _ _ (fun y hsees _ => ?_) hsees)
    exact ⟨_, course, rfl, hfits, hsees⟩

theorem Course.fits_session (fault : Fault) :
    (⟨[], false⟩ : Course).Fits steps (some (sessionFailure fault)) where
  begun := List.nil_prefix
  completed hnone := by cases hnone
  failed f hf := by
    cases hf
    exact .inl ⟨rfl, rfl⟩

theorem keeps_execute (w : Workflow) (context : TaskContext) (hr : r.Serves k context.taskId)
    (x : Unit × State) (hsees : Sees k context.taskId x.2 [] []) :
    (r.execute w context).Keeps (climate k context.taskId)
      (runContract k context.taskId (w.resolve context))
      (RunEnds k context.taskId (w.resolve context)) φ x x := by
  refine keeps_bind_ask rfl fun startedAt => keeps_bind_ask rfl fun start => ?_
  refine Program.keeps_bind.mpr (Program.keeps_attempt.mpr (keeps_going hr.acquire ?_ hsees))
  rintro (fault | page) φ before now hspared hsees
  · dsimp only
    split
    · rename_i heq
      cases heq
    · rename_i heq
      cases heq
      exact absurd rfl hspared
    · exact keeps_closing w hr.channel (Course.fits_session _) {} startedAt start hsees
  · refine Program.keeps_bind.mpr ((keeps_onPage hr.pauses (Eq.refl context.taskId) rfl hr.channel
      start (hr.release page) hsees).mono ?_)
    rintro _ φ before now ⟨failure, g, course, rfl, hfits, hsees⟩
    exact keeps_closing w hr.channel hfits g startedAt start hsees

end Pageflow.Runner
