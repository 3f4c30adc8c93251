import Pageflow.Proofs.Service.Consistent

/-! Records and their results. A record is of the task of its result; it is of the workflow of
its result, and its status that of its result, unless an execution was entered into the record
of another workflow, or failed to yield a result on a record that has one. -/
namespace Pageflow.Service
open Browser

/-- The record is of the task and of the workflow of its result and, once the task has ended,
has the status of its result. -/
structure TaskRecord.Describes (r : TaskRecord) (e : Execution) : Prop where
  taskId : r.taskId = e.taskId
  workflowId : r.workflowId = e.workflowId
  status : r.status.isFinal = true → (r.status = .completed ↔ e.status = "completed")

/-- Every record with a result describes it. -/
def Described (t : Table) : Prop := ∀ r ∈ t.records, ∀ e, r.result = some e → r.Describes e

/-- An execution on the record `r` ends with `result` while the table has the record under
another workflow than the result, or with a completed result where there is none now. -/
def Misfiled (t : Table) (r : TaskRecord) (result : Result Execution) : Prop :=
  ∃ r' ∈ t.records, r'.serial = r.serial ∧ match result with
    | .ok e => r'.workflowId ≠ e.workflowId
    | .error _ => ∃ e, r'.result = some e ∧ e.status = "completed"

section

variable {s : Service} {φ φ' : Phase} {x y : State} {r r' : TaskRecord} {workflowId : String}
  {result : Result Execution} {e : Execution}

/-- The status of a record that has just ended with a result. -/
theorem finish_status (r : TaskRecord) (e : Execution) :
    (r.finish (some e)).status = .completed ↔ e.status = "completed" := by
  unfold TaskRecord.finish Execution.status
  cases h : e.completed <;> simp [h]

theorem Concludes.records (h : s.Concludes r workflowId result x y)
    (hr' : r' ∈ y.tasks.records) : r' ∈ x.tasks.records ∨
      ∃ r₀ ∈ x.tasks.records, r₀.serial = r.serial ∧ r' = r₀.finish result.toOption := by
  rw [h.tasks] at hr'
  obtain ⟨r₀, hr₀, rfl⟩ := Table.mem_change.mp (Table.mem_drop.mp hr').1
  split
  · exact .inr ⟨r₀, hr₀, ‹_›, rfl⟩
  · exact .inl hr₀

/-- What holds of new records, and still holds of those that begin or end, is kept by a turn. -/
theorem Turns.forall {P : TaskRecord → Prop} (h : Turns s φ x φ' y)
    (hx : ∀ r ∈ x.tasks.records, P r) (hnew : ∀ r : TaskRecord, r.result = none → P r)
    (hbegin : ∀ r : TaskRecord, P r → P { r with status := .running })
    (hend : ∀ r workflowId result, φ = .executing r workflowId →
      s.Concludes r workflowId result x y →
      (φ' = .concluded r result ∨ workflowId = r.workflowId ∧ ∃ e, result = .ok e) →
      ∀ r' ∈ x.tasks.records, r'.serial = r.serial → P (r'.finish result.toOption)) :
    ∀ r ∈ y.tasks.records, P r := by
  have henter : ∀ (t : Table) (r : TaskRecord), x.tasks.Enters r t → ∀ r' ∈ t.records, P r' := by
    intro t r henters r' hr'
    rw [henters.records] at hr'
    rcases Table.mem_of_mem_put hr' with rfl | hold
    · exact hnew r' henters.unfinished.2
    · exact hx r' hold
  have hconclude : ∀ r workflowId result, φ = .executing r workflowId →
      s.Concludes r workflowId result x y →
      (φ' = .concluded r result ∨ workflowId = r.workflowId ∧ ∃ e, result = .ok e) →
      ∀ r' ∈ y.tasks.records, P r' := by
    intro r workflowId result hφ hconcludes hhow r' hr'
    rcases hconcludes.records hr' with hold | ⟨r₀, hr₀, hserial, rfl⟩
    · exact hx r' hold
    · exact hend r workflowId result hφ hconcludes hhow r₀ hr₀ hserial
  cases h with
  | wait hsame | refuse hsame | goOn hsame => rwa [hsame]
  | enter henters => exact henter _ _ henters
  | begin hprovides hmarked =>
    rename_i t
    have hprovided : ∀ r ∈ t.records, P r := by
      cases hprovides with
      | found => exact hx
      | entered henters => exact henter _ _ henters
    intro r' hr'
    rw [hmarked] at hr'
    obtain ⟨r₀, hr₀, rfl⟩ := Table.mem_change.mp hr'
    split
    · exact hbegin r₀ (hprovided r₀ hr₀)
    · exact hprovided r₀ hr₀
  | conclude hconcludes => exact hconclude _ _ _ rfl hconcludes (.inl rfl)
  | next hconcludes => exact hconclude _ _ _ rfl hconcludes (.inr ⟨rfl, _, rfl⟩)
  | finish hconcludes => exact hconclude _ _ _ rfl hconcludes (.inr ⟨rfl, _, rfl⟩)

/-- A turn that does not misfile leaves all records described. -/
theorem Turns.described {phase : Nat → Phase} {who : Nat} (h : Turns s (phase who) x φ' y)
    (hconsistent : Consistent x.tasks phase) (hx : Described x.tasks)
    (hfiled : ∀ r result, φ' = .concluded r result → ¬ Misfiled x.tasks r result) :
    Described y.tasks := by
  refine h.forall hx (fun r hnone e hsome => ?_) (fun r hr e hsome => ?_) ?_
  · rw [hnone] at hsome
    cases hsome
  · exact ⟨(hr e hsome).taskId, (hr e hsome).workflowId, nofun⟩
  · intro r workflowId result hφ hconcludes hhow r' hr' hserial e hsome
    obtain ⟨htask, hworkflow⟩ := hconsistent.same who r workflowId hφ r' hr' hserial
    cases result with
    | ok e' =>
      obtain rfl : e' = e := Option.some.inj hsome
      obtain ⟨htask', hworkflow'⟩ := hconcludes.names e' rfl
      refine ⟨htask.trans htask'.symm, ?_, fun _ => finish_status r' e'⟩
      rcases hhow with hconcluded | ⟨hown, -⟩
      · by_contra hne
        exact hfiled r _ hconcluded ⟨r', hr', hserial, hne⟩
      · exact hworkflow.trans (hown.symm.trans hworkflow'.symm)
    | error fault =>
      rcases hhow with hconcluded | ⟨-, _, hok⟩
      · refine ⟨(hx r' hr' e hsome).taskId, (hx r' hr' e hsome).workflowId, fun _ => ?_⟩
        refine iff_of_false nofun fun hcompleted => ?_
        exact hfiled r _ hconcluded ⟨r', hr', hserial, e, hsome, hcompleted⟩
      · cases hok

/-- The record that an execution was misfiled into is not described. -/
theorem Concludes.not_described (h : s.Concludes r workflowId result x y) (hx : x.tasks.Sound)
    (hsame : ∀ r' ∈ x.tasks.records, r'.serial = r.serial → r'.taskId = r.taskId)
    (hmisfiled : Misfiled x.tasks r result) : ¬ Described y.tasks := by
  obtain ⟨r', hr', hserial, hwrong⟩ := hmisfiled
  have hretains : Table.Retains s.settings.runner.taskRetention r.taskId (ended x r result) _ _ :=
    (hx.finish r.serial result.toOption).retains_surplus
  have hfiled : r'.finish result.toOption ∈ y.tasks.records := by
    have hmem : r'.finish result.toOption ∈ (ended x r result).records :=
      Table.mem_change.mpr ⟨r', hr', if_pos hserial⟩
    have htask : (r'.finish result.toOption).taskId = r.taskId := by
      rw [← hsame r' hr' hserial]
      cases result.toOption <;> rfl
    rw [h.tasks]
    by_contra hgone
    exact (hretains.ended _ hmem hgone).2 htask
  intro hdescribed
  cases result with
  | ok e => exact hwrong (hdescribed _ hfiled e rfl).workflowId
  | error fault =>
    obtain ⟨e, hsome, hcompleted⟩ := hwrong
    have hiff := (hdescribed _ hfiled e hsome).status rfl
    exact absurd (hiff.mpr hcompleted) nofun

variable {history : History} {z p : Unit × State} {phase : Nat → Phase}

theorem plays_described (hempty : z.2.tasks = .empty)
    (h : Plays climate (fun _ => s.contract) z history p phase)
    (hfiled : ∀ i r result m, phase i = .concluded r result → lastTurn? history i = some m →
      ¬ Misfiled m.before.2.tasks r result) :
    Described p.2.tasks ∧ ∀ m ∈ history, Described m.after.2.tasks := by
  induction h with
  | start =>
    rw [hempty]
    exact ⟨fun _ hr => (nomatch hr), fun _ hm => (nomatch hm)⟩
  | turn who hplays hmoves ih =>
    -- The call whose turn it is has not concluded before, so `hfiled` speaks of earlier turns of
    -- the others only.
    have hbefore := ih fun i r result m hi hlast => by
      have hother : i ≠ who := by
        rintro rfl
        rw [hi] at hmoves
        cases hmoves
      refine hfiled i r result m ?_ ?_
      · rw [Function.update_of_ne hother]
        exact hi
      · rw [lastTurn?_append_of_ne (Ne.symm hother)]
        exact hlast
    have hafter := Turns.described hmoves (plays_consistent hempty hplays) hbefore.1
      fun r result hφ => hfiled who r result _ (by rw [Function.update_self, hφ])
        (lastTurn?_append_self rfl)
    refine ⟨hafter, fun m hm => ?_⟩
    rcases List.mem_append.mp hm with hold | hnew
    · exact hbefore.2 m hold
    · rw [List.mem_singleton.mp hnew]
      exact hafter
  | happen _ hsame ih =>
    obtain ⟨hdescribed, hall⟩ := ih hfiled
    exact ⟨(show _ = _ from hsame) ▸ hdescribed, hall⟩

theorem plays_taskId (hempty : z.2.tasks = .empty)
    (h : Plays climate (fun _ => s.contract) z history p phase) :
    (∀ r ∈ p.2.tasks.records, ∀ e, r.result = some e → r.taskId = e.taskId) ∧
      ∀ m ∈ history, ∀ r ∈ m.after.2.tasks.records, ∀ e, r.result = some e →
        r.taskId = e.taskId := by
  induction h with
  | start =>
    rw [hempty]
    exact ⟨fun _ hr => (nomatch hr), fun _ hm => (nomatch hm)⟩
  | turn who hplays hmoves ih =>
    have hconsistent := plays_consistent hempty hplays
    have hafter := Turns.forall (P := fun r => ∀ e, r.result = some e → r.taskId = e.taskId) hmoves
      ih.1 (fun r hnone e hsome => by simp [hnone] at hsome) (fun r hr => hr) <| by
        intro r workflowId result hφ hconcludes _ r' hr' hserial e hsome
        cases result with
        | ok e' =>
          obtain rfl : e' = e := Option.some.inj hsome
          exact (hconsistent.same who r workflowId hφ r' hr' hserial).1.trans
            (hconcludes.names e' rfl).1.symm
        | error fault => exact ih.1 r' hr' e hsome
    refine ⟨hafter, fun m hm => ?_⟩
    rcases List.mem_append.mp hm with hold | hnew
    · exact ih.2 m hold
    · rw [List.mem_singleton.mp hnew]
      exact hafter
  | happen _ hsame ih => exact ⟨(show _ = _ from hsame) ▸ ih.1, ih.2⟩

end

/-- A record is always of the task of its result. It describes its result after every turn
exactly if no execution is misfiled, whatever calls there are and in whatever order their turns
come. -/
theorem described_iff (s : Service)
    (hpauses : ∀ c ∈ s.coordinator, c.channel = Progress.busChannel) (call : Nat → Call)
    {x : Unit × State} (hempty : x.2.tasks = .empty) {history : History}
    {e : Ensemble State Ask Ask.Reply Unit Report}
    (h : Reaches climate (fun i => (call i).report s) x history e) :
    (∀ m ∈ history, ∀ r ∈ m.after.2.tasks.records, ∀ e, r.result = some e → r.taskId = e.taskId) ∧
      ((∀ m ∈ history, Described m.after.2.tasks) ↔
        ∀ i r result m, e.stage i = .ended (.ok (.executed r result)) →
          lastTurn? history i = some m → ¬ Misfiled m.before.2.tasks r result) := by
  obtain ⟨phase, hplays, hstands⟩ := h.plays (fun _ => s.contract)
    (fun i y _ _ => keeps_report hpauses (call i) y) (fun _ _ _ _ _ => trivial)
  refine ⟨(plays_taskId hempty hplays).2, fun hdescribed i r result m hstage hlast hmisfiled => ?_,
    fun hfiled => ?_⟩
  · obtain ⟨m', workflowId, hlast', hsound, hsame, hconcludes⟩ :=
      plays_concluded hempty hplays ((stands_concluded (hstands i)).mp hstage)
    obtain rfl : m = m' := Option.some.inj (hlast.symm.trans hlast')
    exact hconcludes.not_described hsound hsame hmisfiled (hdescribed m (mem_of_lastTurn? hlast))
  · exact (plays_described hempty hplays fun i r result m hi hlast =>
      hfiled i r result m ((stands_concluded (hstands i)).mpr hi) hlast).2

/-! ## A task that is run with another workflow than it was submitted with -/

def otherWorkflow : Workflow := { Runner.sampleWorkflow with id := "other", id_valid := by decide }

def registeredState : Unit × State :=
  ((), { registry := ⟨[Runner.sampleWorkflow, otherWorkflow]⟩ })

def submitAndRun : Nat → Call
  | 0 => .submit "open" { taskId := some "t" }
  | _ => .run "other" { taskId := some "t" }

abbrev mixedReports (i : Nat) : Activity Report := (submitAndRun i).report plainService

def mixedUp : Ensemble State Ask Ask.Reply Unit Report :=
  serve (serve (.start registeredState) mixedReports 0 1) mixedReports 1 40

theorem reaches_mixedUp :
    ∃ history, Reaches climate mixedReports registeredState history mixedUp := by
  have hstart : Reaches climate mixedReports registeredState [] _ := .start
  obtain ⟨_, hsubmitted⟩ := reaches_serve hstart 0 1 rfl
  exact reaches_serve hsubmitted 1 40 (Ensemble.replies_stage_of_ne Nat.one_ne_zero ..)

theorem described_iff_mixedUp : ∃ history,
    Reaches climate mixedReports registeredState history mixedUp ∧
      mixedUp.site.2.tasks.records.map (·.taskId) = ["t"] ∧
      (∀ m ∈ history, ∀ r ∈ m.after.2.tasks.records, ∀ e, r.result = some e →
        r.taskId = e.taskId) ∧
      ((∀ m ∈ history, Described m.after.2.tasks) ↔
        ∀ i r result m, mixedUp.stage i = .ended (.ok (.executed r result)) →
          lastTurn? history i = some m → ¬ Misfiled m.before.2.tasks r result) := by
  obtain ⟨history, hreaches⟩ := reaches_mixedUp
  exact ⟨history, hreaches, by decide +kernel,
    described_iff plainService (fun _ hc => nomatch hc) submitAndRun rfl hreaches⟩

/-- The record says `open`, its result `other`. -/
theorem mixedUp_not_described :
    (∃ history, Reaches climate mixedReports registeredState history mixedUp) ∧
      ¬ Described mixedUp.site.2.tasks := by
  refine ⟨reaches_mixedUp, fun hdescribed => ?_⟩
  have hwrong : ∃ r ∈ mixedUp.site.2.tasks.records,
      r.result.any (fun e => r.workflowId ≠ e.workflowId) = true := by
    decide +kernel
  obtain ⟨r, hr, hany⟩ := hwrong
  cases hresult : r.result with
  | none => simp [hresult] at hany
  | some e =>
    have hne : r.workflowId ≠ e.workflowId := by simpa [hresult] using hany
    exact hne (hdescribed r hr e hresult).workflowId

end Pageflow.Service
