import Pageflow.Proofs.Capture.Rounds
import Pageflow.Proofs.Workflow.Composite

/-! How extractions end when a page fails. A fault that the browser reports makes a miss. Any other
fault is let through: the extraction fails with it, and the step that extracts is fatal and keeps
no text. -/
namespace Pageflow.Extraction
open Browser Capture Program Runner

/-- The fault that a call of a page or of an element ended with. -/
def fault? : Note Ask Ask.Reply → Option Fault
  | ⟨.page _ _, .error fault⟩ | ⟨.element _ _, .error fault⟩ => some fault
  | _ => none

def faults (noted : List (Note Ask Ask.Reply)) : List Fault := noted.filterMap fault?

/-- The first fault of these calls that the browser does not report. -/
def stray? (noted : List (Note Ask Ask.Reply)) : Option Fault :=
  (faults noted).find? fun fault => !fault.fromBrowser

/-- How an extraction ends, by the faults of its calls. The first call that fails is the last. -/
inductive Ends : List Fault → Result Extraction → Prop where
  | calm (extraction : Extraction) : Ends [] (.ok extraction)
  | missed {fault : Fault} (hbrowser : fault.fromBrowser = true) (reason : Json) :
    Ends [fault] (.ok (.miss reason))
  | raised {fault : Fault} (hstray : fault.fromBrowser = false) : Ends [fault] (.error fault)

/-- What fails, fails with the first stray fault, and no stray fault is survived. -/
def FailsAstray {α : Type} (noted : List (Note Ask Ask.Reply)) (result : Result α) : Prop :=
  ∀ fault, result = .error fault ↔ stray? noted = some fault

/-- A text is set under a name, and nothing else is changed. -/
structure SetsOnly (name : String) (g g' : Gathered) : Prop where
  set : ∃ text, g'.data.lookup name = some text
  others : ∀ other, other ≠ name → g'.data.lookup other = g.data.lookup other
  screenshots : g'.screenshots = g.screenshots
  pausedSec : g'.pausedSec = g.pausedSec

/-- A step is not fatal and sets a text under its name. -/
def Keeps (name : String) (g : Gathered) (result : Result (Outcome × Gathered)) : Prop :=
  ∃ outcome g', result = .ok (outcome, g') ∧ outcome.failure? = none ∧ SetsOnly name g g'

/-- How a step that extracts ends. -/
structure StepEnds (step : Step) (index : Nat) (name : String) (g : Gathered)
    (noted : List (Note Ask Ask.Reply)) (result : Result (Outcome × Gathered)) : Prop where
  keeps_iff : Keeps name g result ↔ stray? noted = none
  fatal : ∀ fault, stray? noted = some fault → fault ≠ .cancelled →
    result = .ok (.fatal (step.failure index fault), g)
  cancelled : stray? noted = some .cancelled → result = .error .cancelled

section

variable {W α β : Type} {env : Responses State Ask Ask.Reply W} {r : Runner} {run : Run}
  {noted rest : List (Note Ask Ask.Reply)} {name : String} {g g' : Gathered} {step : Step}
  {index : Nat}

theorem stray?_append (noted rest : List (Note Ask Ask.Reply)) :
    stray? (noted ++ rest) = (stray? noted).or (stray? rest) := by
  simp [stray?, faults, List.find?_append]

theorem Ends.failsAstray {result : Result Extraction} (h : Ends (faults noted) result) :
    FailsAstray noted result := by
  intro fault
  unfold stray?
  generalize faults noted = raised at h
  cases h with
  | calm => simp
  | missed hbrowser => simp [hbrowser]
  | raised hstray => simp [hstray]

theorem FailsAstray.ok_iff {result : Result α} (h : FailsAstray noted result) :
    (∃ value, result = .ok value) ↔ stray? noted = none := by
  cases result with
  | ok value =>
    have hnone : stray? noted = none :=
      Option.eq_none_iff_forall_ne_some.mpr fun fault => (h fault).not.mp (by simp)
    simp [hnone]
  | error fault =>
    have hstray := (h fault).mp rfl
    simp [hstray]

/-! ## One extraction -/

/-- How an extraction ends before the faults of the browser are made misses. -/
def Tries (raised : List Fault) (result : Result Extraction) : Prop :=
  Ends raised result ∨ ∃ fault, raised = [fault] ∧ result = .error fault

theorem Tries.raised {fault : Fault} {raised : List Fault} (h : Tries raised (.error fault)) :
    raised = [fault] := by
  obtain hends | ⟨_, hraised, hfault⟩ := h
  · cases hends
    rfl
  · cases hfault
    exact hraised

theorem reports_caught {p : Activity Extraction}
    (hp : p.Reports env browses fun noted => Tries (faults noted)) :
    (p.rescueIf Fault.fromBrowser fun fault => pure (.ofFault fault)).Reports env browses
      fun noted => Ends (faults noted) := by
  refine hp.rescueIf ?_ ?_ ?_
  · rintro noted extraction (hends | ⟨fault, -, hfault⟩)
    · exact hends
    · cases hfault
  · intro noted fault htries hstray
    rw [htries.raised]
    exact .raised hstray
  · intro noted fault htries hbrowser
    refine reports_done ?_
    rw [List.append_nil, htries.raised]
    exact .missed hbrowser _

theorem reports_readElement (element : ElementRef) :
    (readElement element).Reports env browses fun noted => Tries (faults noted) := by
  refine (reports_elementCall (fun _ => id) element .textContent).bind ?_ ?_
  · rintro _ fault rfl
    exact .inr ⟨fault, rfl, rfl⟩
  · rintro _ text rfl
    exact reports_done (.inl (.calm _))

theorem reports_extractDirect (page : PageRef) (timeoutMs : Int) (selector : String) :
    (extractDirect page timeoutMs selector).Reports env browses
      fun noted => Tries (faults noted) := by
  unfold extractDirect
  split
  · exact reports_done (.inl (.calm _))
  · refine (reports_pageCall (fun _ => id) page _).attempt_bind ?_
    rintro _ reply rfl
    split
    · exact reports_readElement _
    · exact reports_done (.inl (.calm _))
    · exact reports_done (.inl (.missed rfl _))
    · exact reports_fail (.inr ⟨_, rfl, rfl⟩)

theorem reports_script (page : PageRef) (c : PageCall) (f : c.Answer → Extraction) :
    (f <$> page.call c).Reports env browses fun noted => Tries (faults noted) := by
  refine (reports_pageCall (fun _ => id) page c).bind ?_ ?_
  · rintro _ fault rfl
    exact .inr ⟨fault, rfl, rfl⟩
  · rintro _ answer rfl
    exact reports_done (.inl (.calm _))

theorem reports_extract (r : Runner) (run : Run) (expression : String) :
    (r.extract run expression).Reports env browses fun noted => Ends (faults noted) := by
  unfold Runner.extract
  cases Expression.parse expression with
  | direct selector => exact reports_caught (reports_extractDirect _ _ selector)
  | nextSibling anchor child => exact reports_caught (reports_script _ _ _)
  | ancestor anchor child => exact reports_caught (reports_script _ _ _)

/-! ## The steps that extract -/

theorem reports_done_astray (value : α) :
    (done value : Activity α).Reports env browses FailsAstray :=
  reports_done fun fault => by simp [stray?, faults]

theorem reports_bind_astray {p : Activity α} {f : α → Activity β}
    (hp : p.Reports env browses FailsAstray)
    (hf : ∀ value, (f value).Reports env browses FailsAstray) :
    (p.bind f).Reports env browses FailsAstray := by
  refine hp.bind (fun noted fault h fault' => by simpa using h fault') fun noted value h => ?_
  have hnone := h.ok_iff.mp ⟨value, rfl⟩
  refine (hf value).mono fun rest result hrest fault => ?_
  rw [stray?_append, hnone, Option.none_or]
  exact hrest fault

theorem reports_extract_astray (expression : String) :
    (r.extract run expression).Reports env browses FailsAstray :=
  (reports_extract r run expression).mono fun _ _ hends => hends.failsAstray

theorem reports_fillSources (sources : List Source) (text : String) :
    (r.fillSources run sources text).Reports env browses FailsAstray := by
  induction sources generalizing text with
  | nil => exact reports_done_astray _
  | cons source sources ih =>
    apply reports_bind_astray (reports_extract_astray source.selector)
    intro extraction
    cases extraction with
    | value found => exact ih _
    | miss reason => exact reports_bind_astray (ih _) fun _ => reports_done_astray _

theorem setsOnly_setData (name text : String) (g : Gathered) :
    SetsOnly name g (g.setData name text) where
  set := ⟨text, by simp [Gathered.setData, Json.lookup_setKey]⟩
  others other hother := by simp [Gathered.setData, Json.lookup_setKey, hother]
  screenshots := rfl
  pausedSec := rfl

/-- An action that keeps something only of what was extracted before. -/
theorem reports_kept {p : Activity α} {keep : α → Outcome × Gathered}
    (hp : p.Reports env browses FailsAstray)
    (hkeep : ∀ found, (keep found).1.failure? = none ∧ SetsOnly name g (keep found).2) :
    (p.bind fun found => done (keep found)).Reports env browses fun noted result =>
      FailsAstray noted result ∧ ∀ outcome g', result = .ok (outcome, g') →
        outcome.failure? = none ∧ SetsOnly name g g' := by
  refine hp.bind (fun noted fault h => ⟨fun fault' => by simpa using h fault', nofun⟩)
    fun noted found h => reports_done ?_
  have hnone := h.ok_iff.mp ⟨found, rfl⟩
  rw [List.append_nil]
  refine ⟨fun fault => by simp [hnone], ?_⟩
  rintro outcome g' hresult
  have hkept := hkeep found
  rwa [Except.ok.inj hresult] at hkept

theorem stepEnds_kept {outcome : Outcome} (hnone : stray? noted = none)
    (hfailure : outcome.failure? = none) (hsets : SetsOnly name g g') :
    StepEnds step index name g noted (.ok (outcome, g')) where
  keeps_iff := iff_of_true ⟨outcome, g', rfl, hfailure, hsets⟩ hnone
  fatal := by simp [hnone]
  cancelled := by simp [hnone]

theorem stepEnds_fatal {fault : Fault} (hstray : stray? noted = some fault)
    (hspared : fault ≠ .cancelled) :
    StepEnds step index name g noted (.ok (.fatal (step.failure index fault), g)) where
  keeps_iff := by simp [Keeps, hstray, Outcome.failure?]
  fatal := by
    rintro fault' hstray' -
    rw [Option.some.inj (hstray.symm.trans hstray')]
  cancelled h := absurd (Option.some.inj (hstray.symm.trans h)) hspared

theorem stepEnds_cancelled (hstray : stray? noted = some .cancelled) :
    StepEnds step index name g noted (.error .cancelled) where
  keeps_iff := by simp [Keeps, hstray]
  fatal _ h hspared := absurd (Option.some.inj (h.symm.trans hstray)) hspared
  cancelled _ := rfl

theorem reports_performStep
    (hperform : (r.perform run index g step.action).Reports env browses fun noted result =>
      FailsAstray noted result ∧ ∀ outcome g', result = .ok (outcome, g') →
        outcome.failure? = none ∧ SetsOnly name g g') :
    (r.performStep run index step g).Reports env browses (StepEnds step index name g) := by
  refine hperform.attempt_bind ?_
  rintro noted (fault | ⟨outcome, g'⟩) ⟨hastray, hkept⟩
  · have hstray : stray? (noted ++ []) = some fault := by simpa using (hastray fault).mp rfl
    cases fault with
    | cancelled => exact reports_fail (stepEnds_cancelled hstray)
    | _ => exact reports_done (stepEnds_fatal hstray nofun)
  · have hnone : stray? (noted ++ []) = none := by simpa using hastray.ok_iff.mp ⟨_, rfl⟩
    obtain ⟨hfailure, hsets⟩ := hkept outcome g' rfl
    exact reports_done (stepEnds_kept hnone hfailure hsets)

theorem reports_extractData (r : Runner) (run : Run) (index : Nat)
    (description expression name : String) (g : Gathered) :
    (r.performStep run index ⟨description, .extractData expression name⟩ g).Reports env browses
      (StepEnds ⟨description, .extractData expression name⟩ index name g) := by
  apply reports_performStep
  apply reports_kept (reports_extract_astray expression)
  intro extraction
  cases extraction with
  | value text => exact ⟨rfl, setsOnly_setData name text g⟩
  | miss reason => exact ⟨rfl, setsOnly_setData name _ g⟩

theorem reports_compositeExtract (r : Runner) (run : Run) (index : Nat)
    (description template : String) (sources : List Source) (name : String) (g : Gathered) :
    (r.performStep run index ⟨description, .compositeExtract template sources name⟩ g).Reports env
      browses (StepEnds ⟨description, .compositeExtract template sources name⟩ index name g) := by
  apply reports_performStep
  apply reports_kept (reports_fillSources sources template)
  intro filled
  refine ⟨?_, setsOnly_setData name filled.1 g⟩
  dsimp only
  split <;> rfl

/-- An extraction yields a text or a miss, and a step that extracts is not fatal and sets a text
under its name alone, exactly if no call of the page or of an element ends with a fault that the
browser does not report. Otherwise the first such fault ends them. -/
theorem extraction_ends_iff (env : Responses State Ask Ask.Reply W) (r : Runner) (run : Run) :
    (∀ expression, (r.extract run expression).Reports env browses fun noted result =>
      Ends (faults noted) result ∧
        ((∃ extraction, result = .ok extraction) ↔ stray? noted = none)) ∧
    ∀ (index : Nat) (description name : String) (g : Gathered),
      (∀ expression,
        (r.performStep run index ⟨description, .extractData expression name⟩ g).Reports env browses
          (StepEnds ⟨description, .extractData expression name⟩ index name g)) ∧
      ∀ template sources,
        (r.performStep run index ⟨description, .compositeExtract template sources name⟩ g).Reports
          env browses
          (StepEnds ⟨description, .compositeExtract template sources name⟩ index name g) := by
  constructor
  · intro expression
    apply (reports_extract r run expression).mono
    intro noted result hends
    exact ⟨hends, hends.failsAstray.ok_iff⟩
  · intro index description name g
    constructor
    · intro expression
      exact reports_extractData r run index description expression name g
    · intro template sources
      exact reports_compositeExtract r run index description template sources name g

end

/-- A page that breaks down, and not in the browser's own way, when an element is waited for. -/
def breaking : Responses State Ask Ask.Reply Unit
  | .page _ (.waitFor _ _), x => (.error (.foreign "RuntimeError" "boom"), x)
  | q, x => (q.refused, x)

/-- The extraction yields nothing, not even a miss, and the step is fatal and sets no text. -/
theorem extraction_breaks :
    (¬ ∃ extraction,
      ((pagedRunner.extract pairRun ".x").run breaking ((), {})).1 = .ok extraction) ∧
    ∃ failure, ((pagedRunner.performStep pairRun 0 ⟨"", .extractData ".x" "title"⟩ {}).run breaking
      ((), {})).1 = .ok (.fatal failure, {}) := by
  have hextract : ((pagedRunner.extract pairRun ".x").run breaking ((), {})).1 =
      .error (.foreign "RuntimeError" "boom") := rfl
  refine ⟨?_, _, rfl⟩
  rw [hextract]
  rintro ⟨extraction, h⟩
  cases h

end Pageflow.Extraction
