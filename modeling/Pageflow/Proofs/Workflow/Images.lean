import Pageflow.Proofs.Blob.Containment
import Pageflow.Proofs.Blob.Folder
import Pageflow.Proofs.Workflow.HandBack

/-! Where the pictures of a task are kept. Whatever a picture is called, its key leads into the
folder of its task, below the key prefix of the service, so no task writes over the pictures of
another. -/
namespace Pageflow.Runner

open Blob Program

/-- The key of a hint leads into the folder of a task. -/
structure Filed (keyPrefix taskId hint key : String) : Prop where
  cleaned : cleanKey hint = .ok key
  inside : ∃ rest, (∀ p ∈ rest, Ordinary p) ∧
    key = Text.join "/" (keyParts (Text.trimChar '/' keyPrefix) ++ taskId :: rest)

theorem storageHint_eq (keyPrefix taskId name : String) : storageHint keyPrefix taskId name =
    inFolder (Text.trimChar '/' keyPrefix) (taskId ++ "/" ++ name) := by
  simp only [storageHint, inFolder, String.append_assoc]

section

variable {keyPrefix : String} (hslashes : '\\' ∉ keyPrefix.toList)
include hslashes

theorem head?_slashed_trimmed :
    (slashed (Text.trimChar '/' keyPrefix)).head? ≠ some '/' := by
  have htrimmed : (Text.trimChar '/' keyPrefix).toList =
      Text.trimBy (· == '/') keyPrefix.toList := String.toList_ofList
  have hbackslash : '\\' ∉ (Text.trimChar '/' keyPrefix).toList := by
    rw [htrimmed]
    exact fun h => hslashes (Text.trimBy_subset _ _ h)
  rw [slashed_of_not_mem hbackslash, htrimmed]
  intro hhead
  simpa using Text.head?_trimBy hhead

theorem keyParts_trimmed :
    keyParts (Text.trimChar '/' keyPrefix) = names (Text.trimChar '/' keyPrefix) :=
  keyParts_of_not_doubleRooted (not_doubleRooted_of_head? (head?_slashed_trimmed hslashes))

variable {taskId : String} (htask : Ordinary taskId)
include htask

theorem not_doubleRooted_storageHint (name : String) :
    ¬ DoubleRooted (storageHint keyPrefix taskId name) := by
  rw [storageHint_eq]
  by_cases hempty : Text.trimChar '/' keyPrefix = ""
  · rw [hempty, inFolder_empty, ← inFolder_of_ne_empty htask.ne_empty]
    exact not_doubleRooted_inFolder htask.ne_empty htask.head?_slashed
  · exact not_doubleRooted_inFolder hempty (head?_slashed_trimmed hslashes)

/-- The task keeps its place whatever the name is, since steps up are dropped, not carried out. -/
theorem names_storageHint (name : String) : names (storageHint keyPrefix taskId name) =
    keyParts (Text.trimChar '/' keyPrefix) ++ taskId :: names name := by
  rw [storageHint_eq, names_inFolder, names_append, htask.names, keyParts_trimmed hslashes]
  rfl

theorem filed_storageHint (name : String) :
    ∃ key, Filed keyPrefix taskId (storageHint keyPrefix taskId name) key := by
  have hnames := names_storageHint hslashes htask name
  refine ⟨_, cleanKey_of_names_ne_nil (not_doubleRooted_storageHint hslashes htask name) ?_, _, ?_,
    congrArg _ hnames⟩
  · simp [hnames]
  · exact fun p hp => ordinary_of_mem_names hp

theorem Filed.parts {hint key : String} (h : Filed keyPrefix taskId hint key) :
    ∃ rest, (∀ p ∈ keyParts (Text.trimChar '/' keyPrefix) ++ taskId :: rest, Ordinary p) ∧
      key = Text.join "/" (keyParts (Text.trimChar '/' keyPrefix) ++ taskId :: rest) ∧
      names hint = keyParts (Text.trimChar '/' keyPrefix) ++ taskId :: rest := by
  obtain ⟨rest, hrest, hkey⟩ := h.inside
  have hparts : ∀ p ∈ keyParts (Text.trimChar '/' keyPrefix) ++ taskId :: rest, Ordinary p := by
    rw [keyParts_trimmed hslashes]
    simp only [List.mem_append, List.mem_cons]
    rintro p (hp | rfl | hp)
    · exact ordinary_of_mem_names hp
    · exact htask
    · exact hrest p hp
  refine ⟨rest, hparts, hkey, ?_⟩
  rw [← names_cleanKey h.cleaned, hkey, names_join hparts (by simp)]

end

/-- Keys in the folders of two tasks differ, and so do the places that they name in a store. -/
theorem Filed.apart {keyPrefix taskId taskId' hint hint' key key' : String}
    (hslashes : '\\' ∉ keyPrefix.toList) (htask : Ordinary taskId) (htask' : Ordinary taskId')
    (hne : taskId ≠ taskId') (h : Filed keyPrefix taskId hint key)
    (h' : Filed keyPrefix taskId' hint' key') :
    key ≠ key' ∧ (∀ store : FileStore, store.target key ≠ store.target key') ∧
      ∀ bucket : BucketStore, bucket.key hint ≠ bucket.key hint' := by
  obtain ⟨rest, hparts, hkey, hnames⟩ := h.parts hslashes htask
  obtain ⟨rest', hparts', hkey', hnames'⟩ := h'.parts hslashes htask'
  generalize keyParts (Text.trimChar '/' keyPrefix) = folder at *
  have hdiffer : folder ++ taskId :: rest ≠ folder ++ taskId' :: rest' := by simp [hne]
  refine ⟨fun heq => ?_, fun store heq => ?_, fun bucket => ?_⟩
  · have hnil : names hint ≠ [] := by simp [hnames]
    have hapart : names hint ≠ names hint' := by rwa [hnames, hnames']
    exact cleanKey_ne hnil hapart (by rw [h.cleaned, h'.cleaned, heq])
  · rw [hkey, hkey', target_eq_join store hparts (by simp), target_eq_join store hparts' (by simp),
      Path.mk.injEq] at heq
    exact hdiffer (List.append_cancel_left heq.2)
  · -- whatever the folder of the bucket is, it adds the same names to both
    have hnil : names (inFolder bucket.folder hint) ≠ [] := by simp [names_inFolder, hnames]
    have hapart : names (inFolder bucket.folder hint) ≠ names (inFolder bucket.folder hint') := by
      rw [names_inFolder, names_inFolder, hnames, hnames']
      exact fun heq => hdiffer (List.append_cancel_left heq)
    exact cleanKey_ne hnil hapart

/-! ## What a run stores -/

section

variable {r : Runner} {run : Run} {W : Type} {taskId : String}

theorem files_acquires {q : Ask} (h : q.Acquires) : r.Files taskId q := by
  refine files_of_none ?_
  rcases h with ⟨ticket, rfl⟩ | hopens
  · rfl
  · cases q with
    | upload => cases hopens
    | _ => rfl

theorem files_prepares {q : Ask} (h : Prepares run.page q) : r.Files taskId q := by
  rcases h with rfl | ⟨event, rfl⟩
  · exact files_of_none rfl
  · exact files_of_none rfl

theorem files_concludes {q : Ask} (h : Concludes q) : r.Files taskId q := by
  rcases h with rfl | htells
  · exact files_of_none rfl
  · exact files_of_none htells.pauses.hint?_eq_none

variable (hr : r.Plain)
include hr

theorem files_handBack :
    (r.handBack run).Confined (r.Files run.taskId) fun _ _ => True := by
  have hrelease : (r.release run.page).Confined (r.Files run.taskId) fun _ _ => True := by
    rw [hr.release]
    refine (Session.confined_release run.page).mono ?_ fun _ _ _ => trivial
    rintro _ (rfl | rfl) <;> exact files_of_none rfl
  refine Confined.bind ?_ fun _ => ?_
  · refine (Network.confined_detach run.page).mono ?_ fun _ _ _ => trivial
    rintro _ ⟨event, rfl⟩
    exact files_of_none rfl
  · exact confined_ite (Confined.bind (confined_update fun _ => trivial) fun _ => hrelease) hrelease

theorem files_onPage (run : Run) (start : Double) (steps : List Step) :
    (r.onPage run start steps).Confined (r.Files run.taskId) fun _ _ => True := by
  have hprepare : (prepare run).Confined (r.Files run.taskId) fun _ _ => True :=
    (confined_prepare run).mono (fun _ => files_prepares) fun _ _ _ => trivial
  have hsteps : (r.performSteps run start 0 {} steps).Confined (r.Files run.taskId)
      fun _ _ => True :=
    (pursues_performSteps hr start {} steps).mono (fun _ hq => hq.2) fun _ _ _ => trivial
  rw [onPage_eq]
  exact hprepare.bind fun _ => hsteps.ensure (files_handBack hr)

/-- Whatever a run stores is a picture of its task. -/
theorem files_execute (w : Workflow) (context : TaskContext) :
    (r.execute w context).Confined (r.Files context.taskId) fun _ _ => True := by
  have hacquire : r.acquire.Confined (r.Files context.taskId) fun _ _ => True := by
    obtain ⟨o, ho⟩ := hr.acquire
    rw [ho]
    exact (Session.confined_acquire o).mono (fun _ => files_acquires) fun _ _ _ => trivial
  have hconclude : ∀ startedAt start failure g,
      (r.conclude w context startedAt start failure g).Confined (r.Files context.taskId)
        fun _ _ => True := fun startedAt start failure g =>
    (confined_conclude hr startedAt start failure g).mono (fun _ => files_concludes)
      fun _ _ _ => trivial
  rw [execute_eq]
  refine confined_ask (files_of_none rfl) fun startedAt => ?_
  refine confined_ask (files_of_none rfl) fun start => hacquire.attempt.bind fun got => ?_
  split
  · rename_i page
    exact (files_onPage hr ⟨context.taskId, page, (w.resolve context).length⟩ _ _).bind
      fun _ => hconclude _ _ _ _
  · exact confined_fail _
  · exact hconclude _ _ _ _

end

/-- No two tasks store a picture under one key: each key is what cleaning leaves of the prefix, and
then the task's own id. -/
theorem execute_imagesApart {r : Runner} (hr : r.Plain)
    (hslashes : '\\' ∉ r.settings.storage.keyPrefix.toList) {W W' : Type} {w w' : Workflow}
    {context context' : TaskContext} (htask : Ordinary context.taskId)
    (htask' : Ordinary context'.taskId) (hne : context.taskId ≠ context'.taskId)
    {env : Responses State Ask Ask.Reply W} {env' : Responses State Ask Ask.Reply W'}
    {x y : W × State} {x' y' : W' × State} {calls calls' : List Ask}
    {result result' : Result Execution} (h : (r.execute w context).Runs env x calls result y)
    (h' : (r.execute w' context').Runs env' x' calls' result' y') {hint hint' : String}
    (hasked : hint ∈ calls.filterMap Ask.hint?) (hasked' : hint' ∈ calls'.filterMap Ask.hint?) :
    ∃ key key', Filed r.settings.storage.keyPrefix context.taskId hint key ∧
      Filed r.settings.storage.keyPrefix context'.taskId hint' key' ∧ key ≠ key' ∧
      (∀ store : FileStore, store.target key ≠ store.target key') ∧
      ∀ bucket : BucketStore, bucket.key hint ≠ bucket.key hint' := by
  obtain ⟨q, hq, hhint⟩ := List.mem_filterMap.mp hasked
  obtain ⟨q', hq', hhint'⟩ := List.mem_filterMap.mp hasked'
  obtain ⟨name, rfl⟩ := (files_execute hr w context).asked h q hq hint hhint
  obtain ⟨name', rfl⟩ := (files_execute hr w' context').asked h' q' hq' hint' hhint'
  obtain ⟨key, hkey⟩ := filed_storageHint hslashes htask name
  obtain ⟨key', hkey'⟩ := filed_storageHint hslashes htask' name'
  exact ⟨key, key', hkey, hkey', hkey.apart hslashes htask htask' hne hkey'⟩

/-! ## A name that leads to another task -/

def prefixedService : Service :=
  { sampleService with
    settings := { sampleSettings with
      storage := { sampleSettings.storage with keyPrefix := "/shots/" } } }

def shootWorkflow (saveAs : String) : Workflow :=
  { sampleWorkflow with steps := [⟨"", .screenshot "#open" false saveAs⟩], steps_ne := by simp }

/-- A browser that shows a picture, and a store that takes it. -/
def shooting : Responses State Ask Ask.Reply Unit
  | .element _ .screenshot, x => (.ok (.image ⟨1, []⟩), x)
  | .upload _ hint, x => (.ok hint, x)
  | q, x => (obliging false q, x)

/-- The hints under which a task stores its picture. -/
def shotHints (taskId saveAs : String) : List String :=
  ((prefixedService.runner.execute (shootWorkflow saveAs) ⟨taskId, "", []⟩).asked shooting
    ((), {})).filterMap Ask.hint?

/-- One task names its picture as if it were in the folder of the other, which has no name for its
own. -/
theorem execute_imagesApart_steppingUp :
    shotHints "t" "..\\u/0_screenshot.png" = ["shots/t/..\\u/0_screenshot.png"] ∧
    shotHints "u" "" = ["shots/u/0_screenshot.png"] ∧
    ∃ key key', Filed "/shots/" "t" "shots/t/..\\u/0_screenshot.png" key ∧
      Filed "/shots/" "u" "shots/u/0_screenshot.png" key' ∧ key ≠ key' ∧
      (∀ store : FileStore, store.target key ≠ store.target key') ∧
      ∀ bucket : BucketStore, bucket.key "shots/t/..\\u/0_screenshot.png" ≠
        bucket.key "shots/u/0_screenshot.png" := by
  have hplain : prefixedService.runner.Plain := by
    refine plain_service _ fun c hc => ?_
    cases hc
    rfl
  have hfirst : shotHints "t" "..\\u/0_screenshot.png" =
      ["shots/t/..\\u/0_screenshot.png"] := by decide +kernel
  have hsecond : shotHints "u" "" = ["shots/u/0_screenshot.png"] := by decide +kernel
  have hasked : "shots/t/..\\u/0_screenshot.png" ∈ shotHints "t" "..\\u/0_screenshot.png" :=
    hfirst ▸ List.mem_singleton_self _
  have hasked' : "shots/u/0_screenshot.png" ∈ shotHints "u" "" :=
    hsecond ▸ List.mem_singleton_self _
  have htask : Ordinary (TaskContext.mk "t" "" []).taskId := by decide
  have htask' : Ordinary (TaskContext.mk "u" "" []).taskId := by decide
  exact ⟨hfirst, hsecond, execute_imagesApart hplain (by decide) htask htask' (by decide)
    (runs_run shooting _ _) (runs_run shooting _ _) hasked hasked'⟩

end Pageflow.Runner
