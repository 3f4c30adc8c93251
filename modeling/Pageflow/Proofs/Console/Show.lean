import Pageflow.Console.Perform
import Pageflow.Proofs.Workflow.Accounts

/-! The workflow that is shown and the one that runs. A command looks for the first workflow of a
directory with an id, while the registry keeps the last one that was registered under it. -/
namespace Pageflow

open Program

namespace Workflow

def bearing (id : String) (ws : List Workflow) : List Workflow := ws.filter (·.id = id)

theorem bearing_cons (id : String) (w : Workflow) (ws : List Workflow) :
    bearing id (w :: ws) = if w.id = id then w :: bearing id ws else bearing id ws := by
  simp [bearing, List.filter_cons]

end Workflow

namespace Registry

variable {id : String}

theorem find?_put (w : Workflow) (ws : List Workflow) :
    (put w ws).find? (·.id = id) = if w.id = id then some w else ws.find? (·.id = id) := by
  induction ws with
  | nil => by_cases h : w.id = id <;> simp [put, h]
  | cons v rest ih =>
    by_cases hreplaced : v.id = w.id
    · by_cases h : w.id = id <;> simp [put, hreplaced, h]
    · rw [put, if_neg hreplaced, List.find?_cons, List.find?_cons, ih]
      by_cases hv : v.id = id
      · have hw : w.id ≠ id := fun hw => hreplaced (hv.trans hw.symm)
        simp [hv, hw]
      · simp [hv]

theorem get?_register (r : Registry) (w : Workflow) :
    (r.register w).get? id = if w.id = id then some w else r.get? id :=
  find?_put w r.workflows

/-- Of the workflows that are registered under an id the last one stands. -/
theorem get?_registerAll (r : Registry) (ws : List Workflow) :
    (r.registerAll ws).get? id = (Workflow.bearing id ws).getLast?.or (r.get? id) := by
  induction ws generalizing r with
  | nil => rfl
  | cons w rest ih =>
    have hstep : (r.registerAll (w :: rest)).get? id = ((r.register w).registerAll rest).get? id :=
      rfl
    rw [hstep, ih, get?_register, Workflow.bearing_cons]
    by_cases h : w.id = id
    · rw [if_pos h, if_pos h, List.getLast?_cons]
      cases (Workflow.bearing id rest).getLast? <;> rfl
    · rw [if_neg h, if_neg h]

theorem get?_registerAll_empty (ws : List Workflow) :
    (empty.registerAll ws).get? id = (Workflow.bearing id ws).getLast? := by
  rw [get?_registerAll]
  exact Option.or_none

theorem require_of_get? {r : Registry} {w : Workflow} (h : r.get? id = some w) :
    r.require id = if w.enabled then .ok w else .error (.workflowDisabled id) := by
  rw [require, h]

end Registry

/-- The registry that holds the workflows of a directory takes in no other. -/
theorem Service.registry_loadWorkflows {W : Type} (s : Service)
    (env : Responses State Ask Ask.Reply W) (x : W × State) :
    (s.loadWorkflows.run env x).2.2.registry =
      (env (.files s.directory) x).2.2.registry.registerAll
        (Workflow.loadAll (env (.files s.directory) x).1 (Path.ofString s.directory)) :=
  rfl

namespace Console

/-- The workflow that is found in a directory for an id. -/
def found? (files : FileTree (List Nat)) (directory : Path) (id : String) : Option Workflow :=
  (Workflow.loadAll files directory).find? (·.id = id)

/-- What is said of the workflow that was looked for among others. -/
def tellFound (id : String) (asJson : Bool) (workflows : List Workflow) :
    Option Workflow → Activity Nat
  | some w => do
    if asJson then sayDocument (w.write .document) else sayAll (workflowTexts w)
    return 0
  | none => do
    say ("[red]Workflow not found:[/red] " ++ id)
    if !workflows.isEmpty then
      say ("  Available: " ++ Text.join ", " (workflows.map (·.id)))
    return 1

theorem found?_eq_head? (files : FileTree (List Nat)) (directory : Path) (id : String) :
    found? files directory id = (Workflow.bearing id (Workflow.loadAll files directory)).head? :=
  List.head?_filter.symm

/-- The command reads the files of its directory and tells of what it found among them. -/
theorem showWorkflow_eq {s : Surroundings} {named : Option String} {directory : Path}
    (hnamed : workflowDirectory s named = pure directory) (id : String) (asJson : Bool) :
    showWorkflow s id named asJson = .ask (.files directory.toString) fun files =>
      tellFound id asJson (Workflow.loadAll files directory) (found? files directory id) := by
  rw [showWorkflow, hnamed]
  refine congrArg (Program.ask (Ask.files directory.toString)) (funext fun files => ?_)
  simp only [found?]
  cases hfound : (Workflow.loadAll files directory).find? (·.id = id) with
  | none => simp [Program.bind_eq_bind, Program.bind, hfound, tellFound]
  | some w => simp [Program.bind_eq_bind, Program.bind, hfound, tellFound]

/-- What is shown for an id is what runs under it. -/
structure ShowsWhatRuns (found : Option Workflow) (registry : Registry) (id : String) : Prop where
  registered : found.isSome ↔ (registry.get? id).isSome
  same : ∀ w ∈ found, registry.get? id = some w
  required : ∀ w ∈ found,
    registry.require id = if w.enabled then .ok w else .error (.workflowDisabled id)

theorem showsWhatRuns_iff_last {found : Option Workflow} {ws : List Workflow} {id : String}
    (hfound : found = (Workflow.bearing id ws).head?) :
    ShowsWhatRuns found (Registry.empty.registerAll ws) id ↔
      (Workflow.bearing id ws).head? = (Workflow.bearing id ws).getLast? := by
  have hget : (Registry.empty.registerAll ws).get? id = (Workflow.bearing id ws).getLast? :=
    Registry.get?_registerAll_empty ws
  rw [← hfound, ← hget]
  constructor
  · intro h
    cases found with
    | some w => exact (h.same w rfl).symm
    | none =>
      rw [eq_comm, Option.eq_none_iff_forall_ne_some]
      intro w hw
      simpa [hw] using h.registered
  · intro h
    rw [h]
    exact ⟨Iff.rfl, fun _ hw => hw, fun _ hw => Registry.require_of_get? hw⟩

/-- What is shown of a directory for an id is what runs under it exactly if the first and the last
workflow of the directory with that id are the same. -/
theorem showsWhatRuns_iff {W W' : Type} {s : Surroundings} {named : Option String} {sv : Service}
    (hnamed : workflowDirectory s named = pure (Path.ofString sv.directory))
    {env : Responses State Ask Ask.Reply W} {env' : Responses State Ask Ask.Reply W'}
    {x : W × State} {x' : W' × State} {files : FileTree (List Nat)}
    (hshow : (env (.files (Path.ofString sv.directory).toString) x).1 = files)
    (hload : (env' (.files sv.directory) x').1 = files)
    (hempty : (env' (.files sv.directory) x').2.2.registry = .empty) (id : String) :
    let directory := Path.ofString sv.directory
    let ws := Workflow.loadAll files directory
    (∀ asJson, (showWorkflow s id named asJson).run env x =
      (tellFound id asJson ws (found? files directory id)).run env
        (env (.files directory.toString) x).2) ∧
    (ShowsWhatRuns (found? files directory id) (sv.loadWorkflows.run env' x').2.2.registry id ↔
      (Workflow.bearing id ws).head? = (Workflow.bearing id ws).getLast?) := by
  refine ⟨fun asJson => ?_, ?_⟩
  · rw [showWorkflow_eq hnamed, ← hshow]
    rfl
  · rw [Service.registry_loadWorkflows, hload, hempty]
    exact showsWhatRuns_iff_last (found?_eq_head? _ _ _)

/-! ## Directories with two files for one id, and without -/

/-- Files that are listed by name are taken in that order. -/
theorem loadAll_of_sorted {files : FileTree (List Nat)} {directory : Path}
    (hdirectory : files.isDirectory directory = true)
    (hsorted : (((files.list directory).map (·.1)).filter fun p =>
      Text.endsWith p.name ".json").Pairwise fun p q => decide (p.name ≤ q.name) = true) :
    Workflow.loadAll files directory =
      (((files.list directory).map (·.1)).filter fun p =>
        Text.endsWith p.name ".json").filterMap fun p => (Workflow.load files p).toOption := by
  rw [Workflow.loadAll, if_pos hdirectory, documentPaths, List.mergeSort_of_pairwise hsorted]

/-- A document of one step that waits for some milliseconds. -/
def waitDocument (id milliseconds : String) : List Nat :=
  ("\x7b\"workflowId\":\"" ++ id ++ "\",\"steps\":[\x7b\"action\":\"wait\",\"milliseconds\":" ++
    milliseconds ++ "\x7d]\x7d").toList.map Char.toNat

def flowsPath : Path := Path.ofString "workflows"

def flowFiles (documents : List (String × List Nat)) : FileTree (List Nat) :=
  ⟨(flowsPath, .directory) :: documents.map fun d => (flowsPath.child d.1, .file d.2)⟩

/-- Two files, and between them one that is no document. -/
def mixedFlows : FileTree (List Nat) :=
  flowFiles [("a.json", waitDocument "w" "1"), ("b.json", []), ("c.json", waitDocument "v" "2")]

def doubledFlows : FileTree (List Nat) :=
  flowFiles [("a.json", waitDocument "w" "1"), ("b.json", waitDocument "w" "2")]

def serving (files : FileTree (List Nat)) : Responses State Ask Ask.Reply Unit
  | .files _, x => (files, x)
  | q, x => (q.refused, x)

theorem showsWhatRuns_iff_mixed :
    (found? mixedFlows flowsPath "w").map (·.steps) = some [⟨"", .wait 1⟩] ∧
    ShowsWhatRuns (found? mixedFlows flowsPath "w")
      (Runner.sampleService.loadWorkflows.run (serving mixedFlows) ((), {})).2.2.registry "w" := by
  have hnamed : workflowDirectory ⟨.ok Runner.sampleSettings, false, true⟩ none =
      pure (Path.ofString Runner.sampleService.directory) := rfl
  have hloaded := loadAll_of_sorted (show mixedFlows.isDirectory flowsPath = true by decide)
    (by decide)
  have hfound : (found? mixedFlows flowsPath "w").map (·.steps) = some [⟨"", .wait 1⟩] := by
    rw [found?, hloaded]
    decide +kernel
  have hone : (Workflow.bearing "w" (Workflow.loadAll mixedFlows flowsPath)).length = 1 := by
    rw [hloaded]
    decide +kernel
  have hsame : (Workflow.bearing "w" (Workflow.loadAll mixedFlows flowsPath)).head? =
      (Workflow.bearing "w" (Workflow.loadAll mixedFlows flowsPath)).getLast? := by
    obtain ⟨w, hw⟩ := List.length_eq_one_iff.mp hone
    rw [hw]
    rfl
  have hserved : ∀ path, (serving mixedFlows (.files path) ((), {})).1 = mixedFlows :=
    fun _ => rfl
  exact ⟨hfound, (showsWhatRuns_iff hnamed (hserved _) (hserved _) rfl "w").2.mpr hsame⟩

theorem doubled_not_showsWhatRuns :
    (found? doubledFlows flowsPath "w").map (·.steps) = some [⟨"", .wait 1⟩] ∧
    ((Registry.empty.registerAll (Workflow.loadAll doubledFlows flowsPath)).get? "w").map
      (·.steps) = some [⟨"", .wait 2⟩] ∧
    ¬ ShowsWhatRuns (found? doubledFlows flowsPath "w")
      (Registry.empty.registerAll (Workflow.loadAll doubledFlows flowsPath)) "w" := by
  have hloaded := loadAll_of_sorted (show doubledFlows.isDirectory flowsPath = true by decide)
    (by decide)
  have hfound : (found? doubledFlows flowsPath "w").map (·.steps) = some [⟨"", .wait 1⟩] := by
    rw [found?, hloaded]
    decide +kernel
  have hregistered : ((Registry.empty.registerAll
      (Workflow.loadAll doubledFlows flowsPath)).get? "w").map (·.steps) =
        some [⟨"", .wait 2⟩] := by
    rw [hloaded]
    decide +kernel
  refine ⟨hfound, hregistered, fun h => ?_⟩
  obtain ⟨w, hw, hsteps⟩ := Option.map_eq_some_iff.mp hfound
  rw [h.same w hw, Option.map_some, hsteps] at hregistered
  simp at hregistered

end Console
end Pageflow
