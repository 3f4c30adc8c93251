import Pageflow.Proofs.Activity.Asked
import Pageflow.Workflow.Run

/-! What one step adds to the result of its run. A step that fails adds nothing; one that
does not adds one text, one picture, or nothing, by its kind. -/
namespace Pageflow

/-- The name under which a step leaves a text. -/
def Action.dataName? : Action → Option String
  | .extractData _ name | .compositeExtract _ _ name => some name
  | _ => none

def Action.isScreenshot : Action → Bool
  | .screenshot _ _ _ => true
  | _ => false

namespace Runner
open Browser

inductive Product where
  | nothing
  | datum (name text : String)
  | picture (shot : Screenshot)

def Product.datum? : Product → Option (String × String)
  | .datum name text => some (name, text)
  | _ => none

def Product.picture? : Product → Option Screenshot
  | .picture shot => some shot
  | _ => none

variable {W : Type} (r : Runner) (run : Run) (env : Responses State Ask Ask.Reply W)

/-- The text that is kept of an extraction. -/
def kept : Extraction → String
  | .value text => text
  | .miss _ => r.settings.runner.extractionFailedValue

/-- What an action that asked `calls` from `x` on to `y` produced, and how it ended. -/
def Makes (x : W × State) (calls : List Ask) (outcome : Outcome) (product : Product)
    (y : W × State) : Action → Prop
  | .extractData selector dataName => ∃ extraction,
    (r.extract run selector).Runs env x calls (.ok extraction) y ∧
      product = .datum dataName (r.kept extraction) ∧
      (extraction.text?.isSome ∧ outcome = .ok dataName ∨
        extraction.text? = none ∧ ∃ detail, outcome = .recovered detail)
  | .compositeExtract template sources dataName => ∃ text misses,
    (r.fillSources run sources template).Runs env x calls (.ok (text, misses)) y ∧
      product = .datum dataName text ∧
      (misses = [] ∧ outcome = .ok dataName ∨ misses ≠ [] ∧ ∃ detail, outcome = .recovered detail)
  | .screenshot _ _ saveAs => ∃ name url data before z,
    name = (if saveAs.isEmpty then defaultName (env .wall x).1 else saveAs) ∧
      calls = before ++ [.upload data (storageHint r.settings.storage.keyPrefix run.taskId name)] ∧
      env (.upload data (storageHint r.settings.storage.keyPrefix run.taskId name)) z =
        (.ok url, y) ∧
      product = .picture ⟨name, url⟩ ∧ outcome = .ok url
  | _ => product = .nothing ∧ ∃ detail, outcome = .ok detail

/-- The result of a run with one more product. -/
structure Adds (product : Product) (g g' : Gathered) : Prop where
  data : g'.data = product.datum?.elim g.data fun datum => Json.setKey datum.1 datum.2 g.data
  screenshots : g'.screenshots = g.screenshots ++ product.picture?.toList

section

variable {r run env} {x y : W × State} {calls : List Ask} {outcome : Outcome} {g g' : Gathered}

open Program

theorem adds_nothing_pause (g : Gathered) (pause : Option Double) :
    Adds .nothing g (g.addPause pause) := by
  cases pause with
  | none => exact ⟨rfl, by simp [Product.picture?, Gathered.addPause]⟩
  | some seconds => exact ⟨rfl, by simp [Product.picture?, Gathered.addPause]⟩

theorem Adds.pause (h : Adds .nothing g g') (pause : Option Double) :
    Adds .nothing g (g'.addPause pause) := by
  have hpause := adds_nothing_pause g' pause
  exact ⟨hpause.data.trans h.data,
    hpause.screenshots.trans (by simp [h.screenshots, Product.picture?])⟩

theorem adds_datum (g : Gathered) (name text : String) :
    Adds (.datum name text) g (g.setData name text) :=
  ⟨rfl, by simp [Product.picture?, Gathered.setData]⟩

theorem adds_nothing (g : Gathered) : Adds .nothing g g := adds_nothing_pause g none

theorem navigate_makes {url ready : String} {index : Nat}
    (h : (r.navigate run index url ready g).Runs env x calls (.ok (outcome, g')) y) :
    outcome = .ok url ∧ Adds .nothing g g' := by
  obtain ⟨_, _, _, _, -, -, h⟩ := runs_bind_ok.mp h
  obtain ⟨pause, _, _, _, -, -, h⟩ := runs_bind_ok.mp h
  dsimp only at h
  generalize (if ready.isEmpty then r.settings.runner.readySelector else ready) = marker at h
  split at h
  · obtain ⟨-, hresult, -⟩ := runs_done.mp h
    cases hresult
    exact ⟨rfl, adds_nothing_pause g pause⟩
  · obtain ⟨pause', _, _, _, -, -, h⟩ := runs_bind_ok.mp h
    obtain ⟨-, hresult, -⟩ := runs_done.mp h
    cases hresult
    exact ⟨rfl, (adds_nothing_pause g pause).pause pause'⟩

theorem click_makes {selector : String} {index : Nat}
    (h : (r.click run index selector g).Runs env x calls (.ok (outcome, g')) y) :
    outcome = .ok selector ∧ Adds .nothing g g' := by
  obtain ⟨pause, _, _, _, -, -, h⟩ := runs_bind_ok.mp h
  obtain ⟨_, _, _, _, -, -, h⟩ := runs_bind_ok.mp h
  obtain ⟨pause', _, _, _, -, -, h⟩ := runs_bind_ok.mp h
  obtain ⟨-, hresult, -⟩ := runs_done.mp h
  cases hresult
  exact ⟨rfl, (adds_nothing_pause g pause).pause pause'⟩

theorem store_makes {name url hint : String} {data : Capture.Picture}
    (h : (store name data hint).Runs env x calls (.ok url) y) :
    calls = [.upload data hint] ∧ env (.upload data hint) x = (.ok url, y) := by
  rcases runs_rescueIf_ok.mp h with hask | ⟨_, _, _, _, -, -, -, hfail⟩
  · obtain ⟨rest, rfl, hanswer⟩ := runs_ask.mp hask
    obtain ⟨rfl, hreply, rfl⟩ := runs_ofResult.mp hanswer
    exact ⟨rfl, Prod.ext hreply.symm rfl⟩
  · cases (runs_fail.mp hfail).2.1

theorem stored_makes {selector name : String} {stitched : Bool}
    (h : ((r.picture run selector stitched).bind fun data =>
      (store name data (storageHint r.settings.storage.keyPrefix run.taskId name)).bind fun url =>
        .done (.ok url, g.addScreenshot ⟨name, url⟩)).Runs env x calls (.ok (outcome, g')) y) :
    ∃ url data before z, calls =
        before ++ [.upload data (storageHint r.settings.storage.keyPrefix run.taskId name)] ∧
      env (.upload data (storageHint r.settings.storage.keyPrefix run.taskId name)) z =
        (.ok url, y) ∧ outcome = .ok url ∧ g' = g.addScreenshot ⟨name, url⟩ := by
  obtain ⟨data, before, _, z, rfl, -, hstored⟩ := runs_bind_ok.mp h
  obtain ⟨url, _, _, _, rfl, hstore, hdone⟩ := runs_bind_ok.mp hstored
  obtain ⟨rfl, hanswer⟩ := store_makes hstore
  obtain ⟨rfl, hresult, rfl⟩ := runs_done.mp hdone
  cases hresult
  exact ⟨url, data, before, z, by simp, hanswer, rfl, rfl⟩

theorem screenshot_makes {selector saveAs : String} {stitched : Bool}
    (h : (r.screenshot run selector stitched saveAs g).Runs env x calls (.ok (outcome, g')) y) :
    ∃ product, Makes r run env x calls outcome product y (.screenshot selector stitched saveAs) ∧
      Adds product g g' := by
  unfold screenshot at h
  split at h
  · -- the clock that names the picture is the first thing asked
    rename_i hempty
    obtain ⟨rest, rfl, hrest⟩ := runs_ask.mp h
    obtain ⟨url, data, before, z, rfl, hanswer, rfl, rfl⟩ := stored_makes hrest
    exact ⟨.picture ⟨_, url⟩, ⟨_, url, data, .wall :: before, z, (if_pos hempty).symm, rfl,
      hanswer, rfl, rfl⟩, rfl, rfl⟩
  · rename_i hnamed
    obtain ⟨url, data, before, z, rfl, hanswer, rfl, rfl⟩ := stored_makes h
    exact ⟨.picture ⟨_, url⟩, ⟨_, url, data, before, z, (if_neg hnamed).symm, rfl, hanswer,
      rfl, rfl⟩, rfl, rfl⟩

theorem perform_makes {action : Action} {index : Nat}
    (h : (r.perform run index g action).Runs env x calls (.ok (outcome, g')) y) :
    ∃ product, Makes r run env x calls outcome product y action ∧ Adds product g g' := by
  cases action with
  | navigate url ready =>
    obtain ⟨rfl, hadds⟩ := navigate_makes h
    exact ⟨.nothing, ⟨rfl, _, rfl⟩, hadds⟩
  | click selector =>
    obtain ⟨rfl, hadds⟩ := click_makes h
    exact ⟨.nothing, ⟨rfl, _, rfl⟩, hadds⟩
  | wait | waitForSelector | scrollPage | waitForNetworkIdle =>
    obtain ⟨_, _, _, _, -, -, h⟩ := runs_bind_ok.mp h
    obtain ⟨-, hresult, -⟩ := runs_done.mp h
    cases hresult
    exact ⟨.nothing, ⟨rfl, _, rfl⟩, adds_nothing g⟩
  | screenshot selector stitched saveAs => exact screenshot_makes h
  | extractData selector dataName =>
    obtain ⟨extraction, _, _, _, rfl, hextract, hdone⟩ := runs_bind_ok.mp h
    obtain ⟨rfl, hresult, rfl⟩ := runs_done.mp hdone
    rw [List.append_nil]
    cases extraction with
    | value text =>
      cases hresult
      exact ⟨.datum dataName text, ⟨_, hextract, rfl, .inl ⟨rfl, rfl⟩⟩, adds_datum g dataName text⟩
    | miss reason =>
      cases hresult
      exact ⟨.datum dataName _, ⟨_, hextract, rfl, .inr ⟨rfl, _, rfl⟩⟩, adds_datum g dataName _⟩
  | compositeExtract template sources dataName =>
    obtain ⟨⟨text, misses⟩, _, _, _, rfl, hfill, hdone⟩ := runs_bind_ok.mp h
    obtain ⟨rfl, hresult, rfl⟩ := runs_done.mp hdone
    rw [List.append_nil]
    refine ⟨.datum dataName text, ⟨text, misses, hfill, rfl, ?_⟩, ?_⟩
    · cases misses with
      | nil =>
        cases hresult
        exact .inl ⟨rfl, rfl⟩
      | cons miss misses =>
        cases hresult
        exact .inr ⟨by simp, _, rfl⟩
    · cases hresult
      exact adds_datum g dataName text

/-- A step that was carried out is not fatal. Extractions and no others produce a text, under
their data name, and screenshots and no others a picture. -/
theorem Makes.fits {product : Product} {action : Action}
    (h : Makes r run env x calls outcome product y action) :
    outcome.failure? = none ∧ product.datum?.map Prod.fst = action.dataName? ∧
      product.picture?.isSome = action.isScreenshot := by
  cases action with
  | extractData =>
    obtain ⟨_, -, rfl, ⟨-, rfl⟩ | ⟨-, _, rfl⟩⟩ := h <;> exact ⟨rfl, rfl, rfl⟩
  | compositeExtract =>
    obtain ⟨_, _, -, rfl, ⟨-, rfl⟩ | ⟨-, _, rfl⟩⟩ := h <;> exact ⟨rfl, rfl, rfl⟩
  | screenshot =>
    obtain ⟨_, _, _, _, _, -, -, -, rfl, rfl⟩ := h
    exact ⟨rfl, rfl, rfl⟩
  | _ =>
    obtain ⟨rfl, _, rfl⟩ := h
    exact ⟨rfl, rfl, rfl⟩

end

end Runner
end Pageflow
