import Pageflow.Proofs.Progress.Latest
import Pageflow.Proofs.Service.Consistent

/-! What is retained when executions end, in whatever order the turns of all calls come. A
record goes only after its task has ended, oldest first, and with the task's event. -/
namespace Pageflow.Service
open Browser

/-- In the turn `m` an execution on the record `r` has ended with `result`, and the records of
the tasks `dropped` are dropped. -/
structure Prunes (s : Service) (r : TaskRecord) (result : Result Execution)
    (m : Move State Unit) (dropped : List String) : Prop where
  table : Table.Retains s.settings.runner.taskRetention r.taskId (ended m.before.2 r result)
    m.after.2.tasks dropped
  events : ∀ taskId ∈ dropped, s.latest? m.after.2 taskId = none

structure Retention (s : Service) (history : History)
    (stage : Nat → Stage State Ask Ask.Reply Report) : Prop where
  /-- Whose record goes in a turn, that task had ended, and its event goes too. -/
  kept : ∀ m ∈ history, ∀ r ∈ m.before.2.tasks.records, m.after.2.tasks.get? r.taskId = none →
    r.status.isFinal = true ∧ s.latest? m.after.2 r.taskId = none
  /-- Every execution that is reported was followed by pruning in the same turn. -/
  pruned : ∀ i r result, stage i = .ended (.ok (.executed r result)) →
    ∃ m dropped, lastTurn? history i = some m ∧ s.Prunes r result m dropped

section

variable {s : Service} {φ φ' : Phase} {x y : State} {r r' : TaskRecord} {workflowId : String}
  {result : Result Execution}

theorem latest?_discard {taskId : String} {dropped : List String} (h : taskId ∈ dropped)
    (state : State) : s.latest? (s.discard dropped state) taskId = none := by
  unfold latest? Progress.Bus.latest?
  rw [discard, Progress.Bus.sink?_modifySink, if_pos rfl]
  cases state.bus.sink? s.progress with
  | none => rfl
  | some sink =>
    cases sink with
    | latest store => exact (Progress.Store.get?_foldl_forget dropped).trans (if_pos h)
    | _ => rfl

theorem Concludes.prunes (h : s.Concludes r workflowId result x y) (hx : x.tasks.Sound) :
    ∃ dropped, Table.Retains s.settings.runner.taskRetention r.taskId (ended x r result) y.tasks
      dropped ∧ ∀ taskId ∈ dropped, s.latest? y taskId = none := by
  have htasks := h.tasks
  obtain ⟨⟨mid, hmid, rfl⟩, -⟩ := h
  refine ⟨mid.tasks.surplus s.settings.runner.taskRetention r.taskId, ?_,
    fun taskId hdropped => latest?_discard hdropped mid⟩
  rw [htasks, ended, hmid]
  exact (hx.finish _ _).retains_surplus

theorem get?_ne_none (h : r ∈ x.tasks.records)
    (hkept : x.tasks.records.map (·.taskId) ⊆ y.tasks.records.map (·.taskId)) :
    y.tasks.get? r.taskId ≠ none :=
  Option.isSome_iff_ne_none.mp
    (Table.get?_isSome_iff.mpr (hkept (List.mem_map_of_mem h)))

/-- What goes in a turn that ends an execution. -/
theorem Concludes.gone (h : s.Concludes r workflowId result x y) (hx : x.tasks.Sound)
    (hsame : ∀ r' ∈ x.tasks.records, r'.serial = r.serial → r'.taskId = r.taskId)
    (hr' : r' ∈ x.tasks.records) (hgone : y.tasks.get? r'.taskId = none) :
    r'.status.isFinal = true ∧ s.latest? y r'.taskId = none := by
  obtain ⟨dropped, hretains, hevents⟩ := h.prunes hx
  -- `r₁` is what ending the execution makes of `r'`.
  obtain ⟨r₁, hr₁, htask, hother⟩ : ∃ r₁ ∈ (ended x r result).records, r₁.taskId = r'.taskId ∧
      (r₁.taskId ≠ r.taskId → r₁ = r') := by
    refine ⟨_, Table.mem_change.mpr ⟨r', hr', rfl⟩, ?_⟩
    split
    · rename_i hserial
      have htask := hsame r' hr' hserial
      cases result.toOption <;> exact ⟨rfl, fun hne => absurd htask hne⟩
    · exact ⟨rfl, fun _ => rfl⟩
  have hmissing : r₁ ∉ y.tasks.records := by
    intro hmem
    refine get?_ne_none (x := y) hmem (List.Subset.refl _) ?_
    rw [htask, hgone]
  obtain ⟨hfinal, hne⟩ := hretains.ended r₁ hr₁ hmissing
  refine ⟨hother hne ▸ hfinal, hevents _ ?_⟩
  by_contra hkept
  refine hmissing ?_
  rw [hretains.rest]
  exact List.mem_filter.mpr ⟨hr₁, by simpa [htask] using hkept⟩

theorem Turns.gone (h : Turns s φ x φ' y) (hx : x.tasks.Sound)
    (hsame : ∀ r workflowId, φ = .executing r workflowId → ∀ r' ∈ x.tasks.records,
      r'.serial = r.serial → r'.taskId = r.taskId)
    (hr' : r' ∈ x.tasks.records) (hgone : y.tasks.get? r'.taskId = none) :
    r'.status.isFinal = true ∧ s.latest? y r'.taskId = none := by
  have hkept : x.tasks.records.map (·.taskId) ⊆ y.tasks.records.map (·.taskId) →
      r'.status.isFinal = true ∧ s.latest? y r'.taskId = none :=
    fun hsubset => absurd hgone (get?_ne_none hr' hsubset)
  cases h with
  | wait heq | refuse heq | goOn heq => exact hkept (heq ▸ List.Subset.refl _)
  | enter henters => exact hkept henters.taskIds_subset
  | begin hprovides hbegin =>
    refine hkept ?_
    rw [hbegin, Table.taskIds_begin]
    cases hprovides with
    | found => exact List.Subset.refl _
    | entered henters => exact henters.taskIds_subset
  | conclude hconcludes | next hconcludes | finish hconcludes =>
    exact hconcludes.gone hx (hsame _ _ rfl) hr' hgone

variable {history : History} {z p : Unit × State} {phase : Nat → Phase}

theorem plays_kept (hempty : z.2.tasks = .empty)
    (h : Plays climate (fun _ => s.contract) z history p phase) :
    ∀ m ∈ history, ∀ r ∈ m.before.2.tasks.records, m.after.2.tasks.get? r.taskId = none →
      r.status.isFinal = true ∧ s.latest? m.after.2 r.taskId = none := by
  induction h with
  | start => exact fun _ hm => nomatch hm
  | turn who hplays hmoves ih =>
    have hconsistent := plays_consistent hempty hplays
    intro m hm r hr hgone
    rcases List.mem_append.mp hm with hold | hnew
    · exact ih m hold r hr hgone
    · obtain rfl := List.mem_singleton.mp hnew
      refine Turns.gone hmoves hconsistent.sound (fun r workflowId hφ r' hr' hserial => ?_) hr hgone
      exact (hconsistent.same who r workflowId hφ r' hr' hserial).1
  | happen _ _ ih => exact ih

end

/-- Retention drops only what it may, whatever calls there are, in whatever order their turns
come, and however their executions end. -/
theorem retention (s : Service) (hpauses : ∀ c ∈ s.coordinator, c.channel = Progress.busChannel)
    (call : Nat → Call) {x : Unit × State} (hempty : x.2.tasks = .empty) {history : History}
    {e : Ensemble State Ask Ask.Reply Unit Report}
    (h : Reaches climate (fun i => (call i).report s) x history e) :
    s.Retention history e.stage := by
  obtain ⟨phase, hplays, hstands⟩ := h.plays (fun _ => s.contract)
    (fun i y _ _ => keeps_report hpauses (call i) y) (fun _ _ _ _ _ => trivial)
  refine ⟨plays_kept hempty hplays, fun i r result hstage => ?_⟩
  obtain ⟨m, workflowId, hlast, hsound, -, hconcludes⟩ :=
    plays_concluded hempty hplays ((stands_concluded (hstands i)).mp hstage)
  obtain ⟨dropped, hretains, hevents⟩ := hconcludes.prunes hsound
  exact ⟨m, dropped, hlast, hretains, hevents⟩

/-! ## Two tasks, of which one is retained -/

def frugalService : Service :=
  { plainService with
    settings := { Runner.sampleSettings with
      runner := { Runner.sampleSettings.runner with taskRetention := 1 } } }

def twoTasks : Nat → Call
  | 0 => .runWorkflow Runner.sampleWorkflow ⟨"a", "", []⟩
  | _ => .runWorkflow Runner.sampleWorkflow ⟨"b", "", []⟩

abbrev twoReports (i : Nat) : Activity Report := (twoTasks i).report frugalService

/-- One sink that keeps the latest event of each task. -/
def followedState : Unit × State :=
  ((), { bus := (Progress.Bus.empty.add (.latest (.empty 1)) none).2 })

def oneEnded : Ensemble State Ask Ask.Reply Unit Report :=
  serve (.start followedState) twoReports 0 40

def bothEnded : Ensemble State Ask Ask.Reply Unit Report := serve oneEnded twoReports 1 40

/-- The older task is dropped with its event when the other one has ended. -/
theorem retention_bothEnded : ∃ history,
    Reaches climate twoReports followedState history bothEnded ∧
      frugalService.Retention history bothEnded.stage ∧
      (bothEnded.result? 1).isSome = true ∧
      (oneEnded.site.2.tasks.records.map (·.taskId) = ["a"] ∧
        (frugalService.latest? oneEnded.site.2 "a").isSome = true) ∧
      bothEnded.site.2.tasks.records.map (·.taskId) = ["b"] ∧
      frugalService.latest? bothEnded.site.2 "a" = none := by
  have hstart : Reaches climate twoReports followedState [] _ := .start
  obtain ⟨_, hone⟩ := reaches_serve hstart 0 40 rfl
  obtain ⟨history, hboth⟩ := reaches_serve hone 1 40
    (Ensemble.replies_stage_of_ne Nat.one_ne_zero ..)
  have hretention := retention frugalService (fun _ hc => nomatch hc) twoTasks rfl hboth
  exact ⟨history, hboth, hretention, by decide +kernel⟩

end Pageflow.Service
