import Pageflow.Capture.LongCapture
import Pageflow.Capture.Scroll
import Pageflow.Pause.Coordinator
import Pageflow.Selector.Extraction
import Pageflow.Workflow.Classify
import Pageflow.Workflow.Document
import Pageflow.Workflow.Resolve
/-!
Running a workflow on a page of its own. The steps are carried out in order until one fails or the
time is up; whatever happens, the page is handed back.
-/
namespace Pageflow

open Browser

/-- What runs work with. -/
structure Runner where
  settings : Settings
  /-- Opens a page. -/
  acquire : Activity PageRef
  /-- Hands a page back. -/
  release : PageRef → Activity Unit
  /-- Pauses runs at challenges, if that is wanted. -/
  coordinator : Option Pause.Coordinator
  channel : Progress.Channel

/-- One run on its page. -/
structure Run where
  taskId : String
  page : PageRef
  totalSteps : Nat

/-- What a run has produced so far, and how many seconds it has spent in pauses. -/
structure Gathered where
  data : List (String × String) := []
  screenshots : List Screenshot := []
  pausedSec : Double := 0
deriving DecidableEq

namespace Gathered

/-- Sets the text under a name. -/
def setData (g : Gathered) (name text : String) : Gathered :=
  { g with data := Json.setKey name text g.data }

def addScreenshot (g : Gathered) (s : Screenshot) : Gathered :=
  { g with screenshots := g.screenshots ++ [s] }

/-- Adds the time of a pause, if there was one. -/
def addPause (g : Gathered) : Option Double → Gathered
  | some seconds => { g with pausedSec := g.pausedSec + seconds }
  | none => g

end Gathered

namespace Runner

/-- Pauses a run if its page shows a challenge. Yields whether it was paused, and for how long. -/
def checkpoint (r : Runner) (run : Run) (index : Nat) : Activity (Option Double) :=
  match r.coordinator with
  | none => pure none
  | some c => do
    let start ← Activity.elapsed
    if ← c.checkpoint run.taskId (some run.page) index run.totalSteps then
      return some ((← Activity.elapsed) - start)
    return none

/-- Waits for an element. If it does not come because of a challenge, waits once more after the
challenge is resolved. Yields the seconds spent in a pause. -/
def waitThroughPause (r : Runner) (run : Run) (index : Nat) (selector : String) (timeoutMs : Int) :
    Activity (Option Double) := do
  match ← (run.page.waitVisible selector timeoutMs).attempt with
  | .ok _ => return none
  | .error (.elementNotFound s t) =>
    match ← r.checkpoint run index with
    | none => .fail (.elementNotFound s t)
    | some paused =>
      let _ ← run.page.waitVisible selector timeoutMs
      return some paused
  | .error fault => .fail fault

/-- Opens an address and waits for the marker of a page that is ready. -/
def navigate (r : Runner) (run : Run) (index : Nat) (url readySelector : String) (g : Gathered) :
    Activity (Outcome × Gathered) := do
  run.page.call (.goto url (some r.settings.browser.navigationTimeoutMs))
  let g := g.addPause (← r.checkpoint run index)
  let marker := if readySelector.isEmpty then r.settings.runner.readySelector else readySelector
  if marker.isEmpty then return (.ok url, g)
  let paused ← (r.waitThroughPause run index marker r.settings.runner.readyTimeoutMs).rescueIf
    (fun fault => fault matches .elementNotFound _ _)
    fun _ => .fail (.navigation
      ("Page-ready marker " ++ Text.quoted marker ++ " not visible after loading " ++ url))
  return (.ok url, g.addPause paused)

def click (r : Runner) (run : Run) (index : Nat) (selector : String) (g : Gathered) :
    Activity (Outcome × Gathered) := do
  let timeoutMs := r.settings.browser.defaultTimeoutMs
  let g := g.addPause (← r.waitThroughPause run index selector timeoutMs)
  run.page.call (.click selector timeoutMs)
  let g := g.addPause (← r.checkpoint run index)
  return (.ok selector, g)

/-- How the page is scrolled before it is captured whole. -/
def scrollOptions (r : Runner) : Capture.ScrollOptions :=
  { delta := r.settings.capture.scrollDeltaPx, pauseMs := r.settings.capture.scrollPauseMs
    stableRounds := r.settings.capture.stableRounds
    maxRounds := r.settings.capture.maxScrollRounds }

/-- How an element is captured piece by piece. -/
def longOptions (r : Runner) : Capture.LongOptions :=
  { overlap := r.settings.capture.overlapPx, idleMs := r.settings.capture.idleMs
    idleTimeoutMs := r.settings.capture.idleTimeoutMs, maxTiles := r.settings.capture.maxTiles
    timeoutMs := r.settings.browser.defaultTimeoutMs, quiet := true }

/-- Takes the picture that a screenshot step asks for. -/
def picture (r : Runner) (run : Run) (selector : String) (stitched : Bool) :
    Activity Capture.Picture := do
  if stitched then
    if selector.isEmpty then
      .fail (.compositing "A stitched screenshot needs the selector of a scrollable element")
    else Capture.captureLong run.page r.longOptions selector
  else if selector.isEmpty then
    let _ ← Capture.scrollToBottom run.page "" r.scrollOptions
    run.page.call (.screenshot true)
  else
    let element ← run.page.waitVisible selector r.settings.browser.defaultTimeoutMs
    element.call .screenshot

/-- The name of a picture that was given none: the time in milliseconds. -/
def defaultName (wall : Double) : String :=
  toString (((wall * 1000).truncate?).getD 0) ++ "_screenshot.png"

/-- The hint under which a picture of a task is stored. -/
def storageHint (keyPrefix taskId name : String) : String :=
  let folder := Text.trimChar '/' keyPrefix
  if folder.isEmpty then taskId ++ "/" ++ name else folder ++ "/" ++ taskId ++ "/" ++ name

/-- Stores a picture; every failure to do so is an upload fault. -/
def store (name : String) (data : Capture.Picture) (hint : String) : Activity String :=
  Program.rescueIf (.ask (.upload data hint) .ofResult)
    (fun fault => !(fault matches .upload _ | .cancelled))
    fun fault => .fail (.upload ("Failed to upload " ++ name ++ ": " ++ fault.headline))

def screenshot (r : Runner) (run : Run) (selector : String) (stitched : Bool) (saveAs : String)
    (g : Gathered) : Activity (Outcome × Gathered) := do
  let name ← if saveAs.isEmpty then defaultName <$> Activity.wall else pure saveAs
  let data ← r.picture run selector stitched
  let url ← store name data (storageHint r.settings.storage.keyPrefix run.taskId name)
  return (.ok url, g.addScreenshot ⟨name, url⟩)

/-- The expression of a text, extracted from the page of a run. -/
def extract (r : Runner) (run : Run) (expression : String) : Activity Extraction :=
  Pageflow.extract run.page r.settings.browser.defaultTimeoutMs (Expression.parse expression)

/-- What a step keeps of an extraction and how it ends. -/
def keepExtraction (r : Runner) (name : String) (g : Gathered) : Extraction → Outcome × Gathered
  | .value text => (.ok name, g.setData name text)
  | .miss reason =>
    (.recovered (name ++ ": " ++ reason.display),
      g.setData name r.settings.runner.extractionFailedValue)

/-- The placeholder of a source in the template of a composite extraction. -/
def sourceMark (name : String) : String := "$\x7b" ++ name ++ "\x7d"

/-- Puts the values of sources into a text, one source after the other. Yields the text and what
was missed. -/
def fillSources (r : Runner) (run : Run) : List Source → String → Activity (String × List String)
  | [], text => pure (text, [])
  | source :: rest, text => do
    match ← r.extract run source.selector with
    | .value found => r.fillSources run rest (Text.replace text (sourceMark source.name) found)
    | .miss reason =>
      let missing := r.settings.runner.compositeMissingValue
      let (text, misses) ←
        r.fillSources run rest (Text.replace text (sourceMark source.name) missing)
      return (text, (source.name ++ " (" ++ reason.display ++ ")") :: misses)

def compositeExtract (r : Runner) (run : Run) (template : String) (sources : List Source)
    (dataName : String) (g : Gathered) : Activity (Outcome × Gathered) := do
  let (text, misses) ← r.fillSources run sources template
  let outcome := if misses.isEmpty then Outcome.ok dataName
    else .recovered (dataName ++ ": missing " ++ ", ".intercalate misses)
  return (outcome, g.setData dataName text)

/-- Carries out an action. -/
def perform (r : Runner) (run : Run) (index : Nat) (g : Gathered) :
    Action → Activity (Outcome × Gathered)
  | .navigate url ready => r.navigate run index url ready g
  | .wait ms => do
    Activity.sleepMs ms
    return (.ok "", g)
  | .waitForSelector selector => do
    let _ ← run.page.waitVisible selector r.settings.browser.defaultTimeoutMs
    return (.ok selector, g)
  | .click selector => r.click run index selector g
  | .screenshot selector stitched saveAs => r.screenshot run selector stitched saveAs g
  | .scrollPage selector => do
    let rounds ← Capture.scrollToBottom run.page selector r.scrollOptions
    return (.ok (toString rounds ++ " rounds"), g)
  | .waitForNetworkIdle idleMs timeoutMs _ => do
    Network.waitForIdle run.page { idleMs, timeoutMs }
    return (.ok "", g)
  | .extractData selector dataName => do
    return r.keepExtraction dataName g (← r.extract run selector)
  | .compositeExtract template sources dataName =>
    r.compositeExtract run template sources dataName g

/-- Carries out a step; a fault ends the run with a failure and keeps what was gathered before. -/
def performStep (r : Runner) (run : Run) (index : Nat) (step : Step) (g : Gathered) :
    Activity (Outcome × Gathered) :=
  (r.perform run index g step.action).rescue fun fault =>
    pure (.fatal (step.failure index fault), g)

/-- The failure of a run that is out of time before step `index`. -/
def timeFailure (r : Runner) (run : Run) (index : Nat) (step : Step) (elapsed : Double) : Failure :=
  { message := "Time budget exceeded at step " ++ toString (index + 1) ++ "/" ++
      toString run.totalSteps ++ " after " ++ Decimal.fixed 1 elapsed ++ "s (budget: " ++
      toString r.settings.runner.maxDurationSec ++ "s)"
    phase := step.action.name
    kind := .timeout
    stepIndex := some index
    diagnostic := "WorkflowTimeoutError" }

/-- Tells of a run. -/
def announce (r : Runner) (run : Run) (status : Progress.Status) (index : Int) (message : String) :
    Activity Unit :=
  Progress.announce r.channel run.taskId status index run.totalSteps message

/-- Carries out the steps from `index` on of a run that began at `start`. -/
def performSteps (r : Runner) (run : Run) (start : Double) (index : Nat) (g : Gathered) :
    List Step → Activity (Option Failure × Gathered)
  | [] => pure (none, g)
  | step :: rest => do
    let active := (← Activity.elapsed) - start - g.pausedSec
    if active.atLeast r.settings.runner.maxDurationSec then
      return (some (r.timeFailure run index step active), g)
    r.announce run .running index
      (if step.description.isEmpty then step.action.name else step.description)
    match ← r.performStep run index step g with
    | (.fatal failure, g) => return (some failure, g)
    | (_, g) => r.performSteps run start (index + 1) g rest

/-- The failure of a run that got no page. -/
def sessionFailure (fault : Fault) : Failure :=
  { message := "Could not open a browser page: " ++ fault.headline
    phase := "session"
    kind := fault.ownKind?.getD .session
    stepIndex := none
    diagnostic := fault.name }

/-- Carries out the steps on a page and hands it back, however they end. A pause that the run may
have left is dropped. -/
def onPage (r : Runner) (run : Run) (start : Double) (steps : List Step) :
    Activity (Option Failure × Gathered) := do
  Network.watch run.page
  Network.attach run.page
  Program.ensure (r.performSteps run start 0 {} steps) do
    Network.detach run.page
    if r.coordinator.isSome then
      let _ ← Pause.cancel run.taskId
    r.release run.page

/-- Runs a workflow for a task. -/
def execute (r : Runner) (w : Workflow) (context : TaskContext) : Activity Execution := do
  let startedAt ← Activity.now
  let start ← Activity.elapsed
  let steps := w.resolve context
  let total := steps.length
  let (failure, g) ← match ← r.acquire.attempt with
    | .ok page => r.onPage ⟨context.taskId, page, total⟩ start steps
    | .error .cancelled => .fail .cancelled
    | .error fault => pure (some (sessionFailure fault), {})
  let duration := (← Activity.elapsed) - start
  let completedAt ← Activity.now
  let tell := Progress.announce r.channel context.taskId
  match failure with
  | none => tell .completed total total "Workflow completed"
  | some f => tell .failed (f.stepIndex.getD 0) total f.message
  return ⟨context.taskId, w.id, g.data, g.screenshots, failure, startedAt, completedAt, duration⟩

end Runner
end Pageflow
