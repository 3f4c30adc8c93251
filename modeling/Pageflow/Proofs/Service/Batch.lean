import Pageflow.Proofs.Service.Unhindered
import Pageflow.Proofs.Workflow.Compilation

/-! Batches. A batch is refused before anything is done, or its inputs are carried through one after
the other, each as a task of its own. Whatever becomes of a task stays in its item. -/
namespace Pageflow.Service

open Browser

variable {W : Type}

/-! ## One input -/

/-- What a caller gives along with a batch. -/
def batchOrder (parameters : List (String × String)) (metadata : List (String × Json)) : Order where
  request := { parameters := parameters.map (Prod.map id Json.str) }
  metadata

theorem checkValues_texts (fields : List (String × String)) :
    Schema.checkValues Schema.text (fields.map (Prod.map id Json.str)) = .valid fields := by
  induction fields with
  | nil => rfl
  | cons field rest ih =>
    rw [List.map_cons, Schema.checkValues, ih]
    rfl

/-- Texts are bound as they are, the input under the key of the workflow. -/
theorem bind_texts (w : Workflow) (taskId input : String) (parameters : List (String × String))
    (metadata : List (String × Json)) :
    (w.bind taskId ((batchOrder parameters metadata).forInput (.str input)).request).toResult =
      .ok ⟨taskId, "", Json.setKey w.inputKey input parameters⟩ := by
  have hchecked : Schema.checkValues Schema.text (Json.setKey w.inputKey (.str input)
      (parameters.map (Prod.map id Json.str))) =
      .valid (Json.setKey w.inputKey input parameters) := by
    rw [Json.setKey_map, checkValues_texts]
  have hparameters : Schema.optional [("task_id", Json.str taskId), ("correlation_id", .str ""),
        ("parameters", .obj (Json.setKey w.inputKey (.str input)
          (parameters.map (Prod.map id Json.str))))] "parameters" "parameters" []
        (Schema.tableOf Schema.text) = .valid (Json.setKey w.inputKey input parameters) :=
    Schema.optional_valid rfl hchecked
  exact congrArg (fun checked => (TaskContext.mk <$> Schema.Checked.valid taskId <*>
    Schema.Checked.valid "" <*> checked).toResult) hparameters

/-! ## A whole batch -/

section

variable {s : Service} {w : Workflow} {parameters : List (String × String)}
  {metadata : List (String × Json)} {env : Responses State Ask Ask.Reply W}

/-- What is left when the execution of a record has ended with a result. -/
def concluded (s : Service) (r : TaskRecord) (e : Execution) (state : State) : State :=
  let tasks := state.tasks.finish r.serial (some e)
  s.discard (tasks.surplus s.settings.runner.taskRetention r.taskId) { state with tasks }

/-- One input of a batch is carried through as a task: a fresh id is asked for, a new record is
entered under it, the workflow is run with the input under its key, and its result is entered into
the record and reported. -/
inductive Carries (s : Service) (w : Workflow) (parameters : List (String × String))
    (metadata : List (String × Json)) (env : Responses State Ask Ask.Reply W) (input : String)
    (x : W × State) : List Ask → BatchItem → W × State → Prop where
  | intro {r : TaskRecord} {tasks : Table} {context : TaskContext} {calls : List Ask}
    {e : Execution} {ended : W × State}
    (hfresh : (env .freshId x).1 = r.taskId) (hunused : x.2.tasks.get? r.taskId = none)
    (henters : x.2.tasks.Enters r tasks) (hworkflow : r.workflowId = w.id)
    (hkept : r.inputValue = .str input ∧ r.metadata = metadata)
    (htask : context.taskId = r.taskId)
    (hinput : context.parameters.lookup w.inputKey = some input)
    (hothers : ∀ key ≠ w.inputKey, context.parameters.lookup key = parameters.lookup key)
    (hruns : (s.runner.execute w context).Runs env
      ((env .now (env .freshId x).2).2.1, { x.2 with tasks := tasks.begin r.serial }) calls (.ok e)
      ended)
    (hnames : e.taskId = r.taskId ∧ e.workflowId = w.id) :
    Carries s w parameters metadata env input x (.freshId :: .now :: calls)
      ⟨.str input, r.taskId, e⟩ (ended.1, s.concluded r e ended.2)

/-- Inputs are carried through one after the other: each begins where the one before has ended. -/
inductive CarriesAll (s : Service) (w : Workflow) (parameters : List (String × String))
    (metadata : List (String × Json)) (env : Responses State Ask Ask.Reply W) :
    List String → W × State → List Ask → List BatchItem → W × State → Prop where
  | done (x : W × State) : CarriesAll s w parameters metadata env [] x [] [] x
  | next {input : String} {inputs : List String} {x y z : W × State} {calls later : List Ask}
    {item : BatchItem} {items : List BatchItem}
    (hfirst : Carries s w parameters metadata env input x calls item y)
    (hrest : CarriesAll s w parameters metadata env inputs y later items z) :
    CarriesAll s w parameters metadata env (input :: inputs) x (calls ++ later) (item :: items) z

/-- Why a batch of `count` inputs is refused. -/
inductive Refuses (s : Service) (registry : Registry) (workflowId : String) (count : ℕ) :
    Fault → Prop where
  | tooMany (hlimit : s.settings.runner.maxBatchSize < count) :
    Refuses s registry workflowId count (.batchLimit count s.settings.runner.maxBatchSize)
  | unknown (hlimit : count ≤ s.settings.runner.maxBatchSize)
    (hunknown : registry.get? workflowId = none) :
    Refuses s registry workflowId count (.workflowNotFound workflowId)
  | disabled {w : Workflow} (hlimit : count ≤ s.settings.runner.maxBatchSize)
    (hfound : registry.get? workflowId = some w) (hdisabled : w.enabled = false) :
    Refuses s registry workflowId count (.workflowDisabled workflowId)

variable {issued : W → List String} {names : String → Prop} {workflowId : String} {x : W × State}

open Program

theorem require_runs {result : Result Workflow} (h : x.2.registry.require workflowId = result) :
    (require workflowId).Runs env x [] result x :=
  runs_read.mpr (runs_ofResult.mpr ⟨rfl, h.symm, rfl⟩)

variable (env) in
/-- An order that names no task is given a new record under a fresh id. -/
theorem submit_runs (hrequire : x.2.registry.require workflowId = .ok w) {order : Order}
    (hunnamed : order.taskId = none) :
    let given := env .freshId x
    let timed := env .now given.2
    let entered := timed.2.2.tasks.submit given.1 workflowId (keptInput order.request.input)
      order.metadata timed.1
    (submit workflowId order).Runs env x [.freshId, .now] (.ok entered.1)
      (timed.2.1, { timed.2.2 with tasks := entered.2 }) := by
  intro given timed entered
  have hchoose : (chooseId order.taskId).Runs env x [.freshId] (.ok given.1) given.2 := by
    rw [hunnamed]
    exact runs_ask.mpr ⟨[], rfl, runs_done.mpr ⟨rfl, rfl, rfl⟩⟩
  have henter : (enter given.1 workflowId order).Runs env given.2 [.now] (.ok entered.1)
      (timed.2.1, { timed.2.2 with tasks := entered.2 }) :=
    runs_ask.mpr ⟨[], rfl, runs_update.mpr ⟨rfl, rfl, rfl⟩⟩
  exact runs_bind_ok.mpr ⟨w, [], _, x, rfl, require_runs hrequire,
    runs_bind_ok.mpr ⟨given.1, [.freshId], [.now], given.2, rfl, hchoose, henter⟩⟩

theorem keptInput_str (input : String) : keptInput (some (.str input)) = .str input := by
  by_cases h : input = ""
  · subst h
    rfl
  · simp [keptInput, Json.truthy, h]

theorem bindContext_runs {taskId : String} (hne : taskId ≠ "") (input : String) :
    (bindContext w (some taskId) ((batchOrder parameters metadata).forInput (.str input)).request).Runs
      env x [] (.ok ⟨taskId, "", Json.setKey w.inputKey input parameters⟩) x := by
  have hchosen : chooseId (some taskId) = .done taskId := by
    simp [chooseId, Option.filter, hne]
  unfold bindContext
  rw [hchosen]
  exact runs_ofResult.mpr ⟨rfl, (bind_texts w taskId input parameters metadata).symm, rfl⟩

variable (parameters metadata) in
theorem prepare_runs (hfree : Unhindered env issued names)
    (hrequire : x.2.registry.require workflowId = .ok w) (input : String) :
    ∃ r tasks, (prepare workflowId ((batchOrder parameters metadata).forInput (.str input))).Runs
        env x [.freshId, .now]
        (.ok (r, w, ⟨r.taskId, "", Json.setKey w.inputKey input parameters⟩))
        ((env .now (env .freshId x).2).2.1, { x.2 with tasks }) ∧
      x.2.tasks.Enters r tasks ∧ (env .freshId x).1 = r.taskId ∧ r.workflowId = workflowId ∧
      r.inputValue = .str input ∧ r.metadata = metadata := by
  have hunnamed : ((batchOrder parameters metadata).forInput (.str input)).taskId = none := rfl
  have hsubmit := submit_runs env hrequire hunnamed
  have htimed : (env .now (env .freshId x).2).2.2 = x.2 :=
    (hfree.atOnce _ _ (.inr rfl)).trans (hfree.atOnce _ x (.inl rfl))
  simp only [htimed] at hsubmit
  have henters := Table.enters_submit x.2.tasks (env .freshId x).1 workflowId
    (keptInput (some (.str input))) metadata (env .now (env .freshId x).2).1
  refine ⟨_, _, ?_, henters, rfl, rfl, keptInput_str input, rfl⟩
  exact runs_bind_ok.mpr ⟨w, [], _, x, rfl, require_runs hrequire,
    runs_bind_ok.mpr ⟨_, [.freshId, .now], [], _, rfl, runs_read.mpr hsubmit,
      runs_bind_ok.mpr ⟨_, [], [], _, rfl, bindContext_runs (hfree.fresh x).1 input,
        runs_done.mpr ⟨rfl, rfl, rfl⟩⟩⟩⟩

/-- The execution of a record that yields a result ends with the result entered. -/
theorem execute_runs {r : TaskRecord} {context : TaskContext} {calls : List Ask} {e : Execution}
    {ended : W × State} (hruns : (s.runner.execute w context).Runs env
      (x.1, { x.2 with tasks := x.2.tasks.begin r.serial }) calls (.ok e) ended) :
    (s.execute r w context).Runs env x calls (.ok e) (ended.1, s.concluded r e ended.2) := by
  refine runs_bind_ok.mpr ⟨(), [], calls, _, rfl, runs_modify.mpr ⟨rfl, rfl, rfl⟩, ?_⟩
  refine runs_attempt_bind.mpr ⟨.ok e, calls, [], ended, by simp, hruns, ?_⟩
  refine runs_bind_ok.mpr ⟨(), [], [], _, rfl, runs_modify.mpr ⟨rfl, rfl, rfl⟩, ?_⟩
  exact runs_bind_ok.mpr ⟨(), [], [], _, rfl, runs_modify.mpr ⟨rfl, rfl, rfl⟩,
    runs_ofResult.mpr ⟨rfl, rfl, rfl⟩⟩

variable (parameters metadata) (hpauses : ∀ c ∈ s.coordinator, c.channel = Progress.busChannel)
include hpauses

/-- A task of a batch is carried through, and its id is issued from then on. -/
theorem run_carries (hfree : Unhindered env issued names)
    (hrequire : x.2.registry.require workflowId = .ok w) (input : String) :
    ∃ calls item y, (s.run workflowId ((batchOrder parameters metadata).forInput (.str input))).Runs
        env x calls (.ok item.result) y ∧
      s.Carries w parameters metadata env input x calls item y ∧
      item = ⟨.str input, item.result.taskId, item.result⟩ ∧ item.taskId ∉ issued x.1 ∧
      Stays issued x.2.registry (item.taskId :: issued x.1) y := by
  obtain ⟨r, tasks, hprepare, henters, hid, hworkflow, hkept⟩ :=
    prepare_runs parameters metadata hfree hrequire input
  have hfresh := hfree.fresh x
  dsimp only at hfresh
  rw [hid] at hfresh
  obtain ⟨-, hname, hnew, hunused, hissued⟩ := hfresh
  let start : W × State :=
    ((env .now (env .freshId x).2).2.1, { x.2 with tasks := tasks.begin r.serial })
  have hstart : Stays issued x.2.registry (r.taskId :: issued x.1) start := by
    refine ⟨rfl, List.Subset.trans ?_ (hfree.grows .now _)⟩
    exact List.cons_subset.mpr ⟨hissued, hfree.grows .freshId x⟩
  let context : TaskContext := ⟨r.taskId, "", Json.setKey w.inputKey input parameters⟩
  obtain ⟨calls, e, ended, hruns, hended, hnames⟩ :=
    execute_yields hfree hpauses w context hname hstart
  refine ⟨_, ⟨.str input, r.taskId, e⟩, _, ?_, .intro hid hunused henters ?_ hkept rfl ?_ ?_ hruns
    hnames, ?_, hnew, ⟨hended.registry, hended.issued⟩⟩
  · exact runs_bind_ok.mpr ⟨_, [.freshId, .now], calls, _, rfl, hprepare, execute_runs hruns⟩
  · rw [hworkflow, Registry.id_of_require hrequire]
  · rw [Json.lookup_setKey, if_pos rfl]
  · intro key hkey
    rw [Json.lookup_setKey, if_neg hkey]
  · rw [hnames.1]

theorem runEach_carries (hfree : Unhindered env issued names)
    (hrequire : x.2.registry.require workflowId = .ok w) (inputs : List String) :
    ∃ calls items y, (s.runEach workflowId (batchOrder parameters metadata)
        (inputs.map .str)).Runs env x calls (.ok items) y ∧
      s.CarriesAll w parameters metadata env inputs x calls items y ∧
      items.map (·.inputValue) = inputs.map .str ∧ (items.map (·.taskId)).Nodup ∧
      ∀ item ∈ items, item.taskId ∉ issued x.1 := by
  induction inputs generalizing x with
  | nil =>
    exact ⟨[], [], x, runs_done.mpr ⟨rfl, rfl, rfl⟩, .done x, rfl, List.nodup_nil,
      List.forall_mem_nil _⟩
  | cons input rest ih =>
    obtain ⟨first, item, y, hrun, hfirst, hitem, hnew, hstays⟩ :=
      run_carries parameters metadata hpauses hfree hrequire input
    rw [← hstays.registry] at hrequire
    obtain ⟨later, items, z, hruns, hrest, hinputs, hnodup, hothers⟩ := ih hrequire
    have hissued := List.cons_subset.mp hstays.issued
    refine ⟨first ++ later, item :: items, z, ?_, .next hfirst hrest, ?_, ?_, ?_⟩
    · refine runs_bind_ok.mpr ⟨item.result, first, later, y, rfl, hrun, ?_⟩
      refine runs_bind_ok.mpr ⟨items, later, [], z, by simp, hruns, runs_done.mpr ⟨rfl, ?_, rfl⟩⟩
      rw [← hitem]
    · rw [List.map_cons, List.map_cons, hinputs, hitem]
    · refine List.nodup_cons.mpr ⟨fun hmem => ?_, hnodup⟩
      obtain ⟨other, hother, hsame⟩ := List.mem_map.mp hmem
      exact hothers other hother (hsame ▸ hissued.1)
    · refine List.forall_mem_cons.mpr ⟨hnew, fun other hother hold => ?_⟩
      exact hothers other hother (hissued.2 hold)

omit hpauses in
theorem runBatch_refuses {count : ℕ} {inputs : List Json} {order : Order} {fault : Fault}
    (hcount : inputs.length = count)
    (h : s.Refuses x.2.registry workflowId count fault) :
    (s.runBatch workflowId inputs order).Runs env x [] (.error fault) x := by
  subst hcount
  unfold runBatch
  cases h with
  | tooMany hlimit =>
    rw [if_pos hlimit]
    exact runs_fail.mpr ⟨rfl, rfl, rfl⟩
  | unknown hlimit hunknown =>
    rw [if_neg (by omega)]
    refine runs_bind.mpr (.inr ⟨_, rfl, require_runs ?_⟩)
    rw [Registry.require, hunknown]
  | disabled hlimit hfound hdisabled =>
    rw [if_neg (by omega)]
    refine runs_bind.mpr (.inr ⟨_, rfl, require_runs ?_⟩)
    simp only [Registry.require, hfound, hdisabled]
    rfl

end

/-- A batch that is refused has asked and changed nothing. One that is not refused yields an item for
each input, in their order, if nothing hinders it: whatever becomes of a task, the next one is run. -/
theorem runBatch_carries (s : Service)
    (hpauses : ∀ c ∈ s.coordinator, c.channel = Progress.busChannel) (workflowId : String)
    (inputs : List String) (parameters : List (String × String)) (metadata : List (String × Json))
    (env : Responses State Ask Ask.Reply W) (x : W × State) :
    let batch := s.runBatch workflowId (inputs.map .str) (batchOrder parameters metadata)
    (∀ fault, s.Refuses x.2.registry workflowId inputs.length fault →
      batch.Runs env x [] (.error fault) x) ∧
    ∀ w, inputs.length ≤ s.settings.runner.maxBatchSize →
      x.2.registry.get? workflowId = some w → w.enabled = true →
      ∀ issued names, Unhindered env issued names →
      ∃ calls items y, batch.Runs env x calls (.ok items) y ∧
        s.CarriesAll w parameters metadata env inputs x calls items y ∧
        items.map (·.inputValue) = inputs.map .str ∧ (items.map (·.taskId)).Nodup ∧
        ∀ item ∈ items, item.taskId ∉ issued x.1 := by
  intro batch
  refine ⟨fun fault h => runBatch_refuses (by simp) h, ?_⟩
  intro w hlimit hfound henabled issued names hfree
  have hrequire : x.2.registry.require workflowId = .ok w := by
    simp only [Registry.require, hfound, henabled, ↓reduceIte]
  obtain ⟨calls, items, y, hruns, hcarries⟩ := runEach_carries parameters metadata hpauses hfree
    hrequire inputs
  refine ⟨calls, items, y, ?_, hcarries⟩
  change (runBatch s workflowId (inputs.map .str) _).Runs _ _ _ _ _
  unfold runBatch
  rw [if_neg (by simpa using hlimit)]
  exact Program.runs_bind_ok.mpr ⟨w, [], calls, x, rfl, require_runs hrequire, hruns⟩

/-! ## A batch whose tasks all fail -/

/-- A text longer than these. -/
def longerThan (texts : List String) : String :=
  String.ofList (List.replicate (texts.foldr (fun text n => max text.length n) 0 + 1) 'i')

theorem length_le_foldr {text : String} {texts : List String} (h : text ∈ texts) :
    text.length ≤ texts.foldr (fun text n => max text.length n) 0 := by
  induction texts with
  | nil => cases h
  | cons other rest ih =>
    rw [List.foldr_cons]
    rcases List.mem_cons.mp h with rfl | hrest
    · omega
    · have hle := ih hrest
      omega

theorem longerThan_not_mem (texts : List String) : longerThan texts ∉ texts := by
  intro hmem
  have hle := length_le_foldr hmem
  simp only [longerThan, String.length_ofList, List.length_replicate] at hle
  omega

/-- No browser can be launched, and each id is longer than all there have been. -/
def unreachable : Responses State Ask Ask.Reply (List String)
  | .freshId, (issued, t) =>
    let id := longerThan (issued ++ t.tasks.records.map (·.taskId))
    (id, (id :: issued, t))
  | .page _ (.listen _), x => (.ok (), x)
  | q, x => (q.refused, x)

theorem unhindered_unreachable : Unhindered unreachable id fun _ => True where
  spares q x := by
    unfold unreachable
    split
    · trivial
    · exact nofun
    · exact q.spares_refused
  listens q x := by
    unfold unreachable
    split
    · trivial
    · rfl
    · next hlisten _ => exact q.listens_refused hlisten
  registry q x := by
    unfold unreachable
    split <;> rfl
  pauses q x h _ := by
    unfold unreachable
    split <;> exact id
  grows q x := by
    unfold unreachable
    split
    · exact List.subset_cons_self _ _
    · exact List.Subset.refl _
    · exact List.Subset.refl _
  fresh x := by
    have hnew := longerThan_not_mem (x.1 ++ x.2.tasks.records.map (·.taskId))
    rw [List.mem_append, not_or] at hnew
    refine ⟨?_, trivial, hnew.1, ?_, List.mem_cons_self⟩
    · exact fun hempty => by simpa [unreachable, longerThan] using congrArg String.length hempty
    · rw [← Option.not_isSome_iff_eq_none, Table.get?_isSome_iff]
      exact hnew.2
  atOnce q x := by
    unfold unreachable
    split <;> exact fun _ => rfl

def stockedState : State := { registry := ⟨[Runner.sampleWorkflow]⟩ }

/-- That the first task failed does not keep the second one from being run. -/
theorem runBatch_carries_unreachable :
    (∀ c ∈ Runner.sampleService.coordinator, c.channel = Progress.busChannel) ∧
    Unhindered unreachable id (fun _ => True) ∧ ∃ calls items y,
      (Runner.sampleService.runBatch "open" [.str "1", .str "2"] (batchOrder [] [])).Runs unreachable
        ([], stockedState) calls (.ok items) y ∧
      CarriesAll Runner.sampleService Runner.sampleWorkflow [] [] unreachable ["1", "2"]
        ([], stockedState) calls items y ∧
      items.map (·.inputValue) = [.str "1", .str "2"] ∧
      items.map (·.taskId) = ["i", "ii"] ∧ items.map (·.result.completed) = [false, false] := by
  have hpauses : ∀ c ∈ Runner.sampleService.coordinator, c.channel = Progress.busChannel := by
    rintro _ ⟨⟩
    rfl
  obtain ⟨calls, items, y, hruns, hcarries, hinputs, -⟩ :=
    (runBatch_carries Runner.sampleService hpauses "open" ["1", "2"] [] [] unreachable
      ([], stockedState)).2 Runner.sampleWorkflow (by decide) rfl rfl _ _ unhindered_unreachable
  have hended : ((Runner.sampleService.runBatch "open" [.str "1", .str "2"]
      (batchOrder [] [])).run unreachable ([], stockedState)).1.toOption.map (fun items =>
        (items.map (·.taskId), items.map (·.result.completed))) =
      some (["i", "ii"], [false, false]) := by decide +kernel
  obtain ⟨htaskIds, hfailed⟩ : items.map (·.taskId) = ["i", "ii"] ∧
      items.map (·.result.completed) = [false, false] := by
    have hrun : ((Runner.sampleService.runBatch "open" [.str "1", .str "2"]
      (batchOrder [] [])).run unreachable ([], stockedState)).1 = .ok items :=
      congrArg Prod.fst hruns.run
    rw [hrun] at hended
    exact Prod.mk.inj (Option.some.inj hended)
  exact ⟨hpauses, unhindered_unreachable, calls, items, y, hruns, hcarries, hinputs, htaskIds,
    hfailed⟩

end Pageflow.Service
