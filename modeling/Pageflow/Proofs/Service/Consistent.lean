import Pageflow.Proofs.Service.Calls

/-! Records keep their task and their workflow while calls come and go, and an execution is
entered in the last turn of the call that reports it. -/
namespace Pageflow.Service

abbrev History : Type := List (Move State Unit)

def lastTurn? (history : History) (i : Nat) : Option (Move State Unit) :=
  (history.filter (·.who = i)).getLast?

/-- What holds of the table and of the records on which executions are under way. -/
structure Consistent (t : Table) (phase : Nat → Phase) : Prop where
  sound : t.Sound
  issued : ∀ i r workflowId, phase i = .executing r workflowId → r.serial < t.nextSerial
  same : ∀ i r workflowId, phase i = .executing r workflowId → ∀ r' ∈ t.records,
    r'.serial = r.serial → r'.taskId = r.taskId ∧ r'.workflowId = r.workflowId

section

variable {s : Service} {φ φ' : Phase} {x y : State} {r : TaskRecord} {workflowId : String}
  {result : Result Execution} {history : History} {m : Move State Unit} {i : Nat}

theorem lastTurn?_append_self (h : m.who = i) : lastTurn? (history ++ [m]) i = some m := by
  simp [lastTurn?, h]

theorem lastTurn?_append_of_ne (h : m.who ≠ i) :
    lastTurn? (history ++ [m]) i = lastTurn? history i := by
  simp [lastTurn?, h]

theorem mem_of_lastTurn? (h : lastTurn? history i = some m) : m ∈ history :=
  List.mem_of_mem_filter (List.mem_of_getLast? h)

/-! ## Tables -/

/-- The table when an execution has ended, before it is pruned. -/
def ended (x : State) (r : TaskRecord) (result : Result Execution) : Table :=
  x.tasks.finish r.serial result.toOption

theorem Concludes.tasks (h : s.Concludes r workflowId result x y) :
    y.tasks = (ended x r result).drop
      ((ended x r result).surplus s.settings.runner.taskRetention r.taskId) := by
  obtain ⟨⟨mid, hmid, rfl⟩, -⟩ := h
  rw [ended, ← hmid]
  rfl

theorem Provides.sound {t : Table} (h : Provides x.tasks r workflowId t) (hx : x.tasks.Sound) :
    t.Sound := by
  cases h with
  | found => exact hx
  | entered henters => exact hx.enters henters

theorem Provides.continues {t : Table} (h : Provides x.tasks r workflowId t) :
    x.tasks.Continues t := by
  cases h with
  | found => exact .refl
  | entered henters => exact henters.continues

theorem Provides.mem {t : Table} (h : Provides x.tasks r workflowId t) : r ∈ t.records := by
  cases h with
  | found hmem => exact hmem
  | entered henters =>
    rw [henters.records]
    exact Table.mem_put_self

theorem Turns.sound (h : Turns s φ x φ' y) (hx : x.tasks.Sound) : y.tasks.Sound := by
  cases h with
  | wait hsame | refuse hsame | goOn hsame => rwa [hsame]
  | enter henters => exact hx.enters henters
  | begin hprovides hbegin =>
    rw [hbegin]
    exact (hprovides.sound hx).begin _
  | conclude hconcludes | next hconcludes | finish hconcludes =>
    rw [hconcludes.tasks]
    exact (hx.finish _ _).drop _

theorem Turns.continues (h : Turns s φ x φ' y) : x.tasks.Continues y.tasks := by
  cases h with
  | wait hsame | refuse hsame | goOn hsame =>
    rw [hsame]
    exact .refl
  | enter henters => exact henters.continues
  | begin hprovides hbegin =>
    rw [hbegin]
    exact hprovides.continues.trans Table.continues_begin
  | conclude hconcludes | next hconcludes | finish hconcludes =>
    rw [hconcludes.tasks]
    exact Table.continues_finish.trans Table.continues_drop

/-- What a call comes to execute is a record of the table. -/
theorem Turns.executing (h : Turns s φ x (.executing r workflowId) y) (hx : x.tasks.Sound) :
    φ = .executing r workflowId ∨ r.serial < y.tasks.nextSerial ∧ ∀ r' ∈ y.tasks.records,
      r'.serial = r.serial → r'.taskId = r.taskId ∧ r'.workflowId = r.workflowId := by
  cases h with
  | goOn => exact .inl rfl
  | begin hprovides hbegin =>
    rename_i t
    have hsound := hprovides.sound hx
    refine .inr ⟨?_, fun r' hr' hserial => ?_⟩
    · rw [hbegin]
      exact hsound.fresh r hprovides.mem
    · rw [hbegin] at hr'
      rcases Table.continues_begin.records r' hr' with hnew | ⟨r₀, hr₀, heq, htask, hworkflow⟩
      · exact absurd (hsound.fresh r hprovides.mem) (Nat.not_lt_of_le (hserial ▸ hnew))
      · rw [htask, hworkflow, hsound.serials r₀ hr₀ r hprovides.mem (heq ▸ hserial)]
        exact ⟨rfl, rfl⟩

theorem Turns.concluded (h : Turns s φ x (.concluded r result) y) :
    ∃ workflowId, φ = .executing r workflowId ∧ s.Concludes r workflowId result x y := by
  cases h with
  | conclude hconcludes => exact ⟨_, rfl, hconcludes⟩

theorem Consistent.turn {phase : Nat → Phase} {who : Nat} (h : Consistent x.tasks phase)
    (hturns : Turns s (phase who) x φ y) : Consistent y.tasks (Function.update phase who φ) := by
  have hcontinues := hturns.continues
  -- A serial is given once, so what has it after the turn had it before.
  have hkept : ∀ r workflowId, (∃ i, phase i = .executing r workflowId) →
      r.serial < y.tasks.nextSerial ∧ ∀ r' ∈ y.tasks.records, r'.serial = r.serial →
        r'.taskId = r.taskId ∧ r'.workflowId = r.workflowId := by
    rintro r workflowId ⟨i, hi⟩
    have hissued := h.issued i r workflowId hi
    refine ⟨Nat.lt_of_lt_of_le hissued hcontinues.next, fun r' hr' hserial => ?_⟩
    rcases hcontinues.records r' hr' with hnew | ⟨r₀, hr₀, hserial₀, htask₀, hworkflow₀⟩
    · exact absurd (hserial ▸ hissued) (Nat.not_lt_of_le hnew)
    · obtain ⟨htask, hworkflow⟩ := h.same i r workflowId hi r₀ hr₀ (hserial₀ ▸ hserial)
      exact ⟨htask₀.trans htask, hworkflow₀.trans hworkflow⟩
  have hall : ∀ i r workflowId, Function.update phase who φ i = .executing r workflowId →
      r.serial < y.tasks.nextSerial ∧ ∀ r' ∈ y.tasks.records, r'.serial = r.serial →
        r'.taskId = r.taskId ∧ r'.workflowId = r.workflowId := by
    intro i r workflowId hi
    by_cases hwho : i = who
    · subst hwho
      rw [Function.update_self] at hi
      subst hi
      rcases hturns.executing h.sound with hbefore | hnow
      · exact hkept r workflowId ⟨i, hbefore⟩
      · exact hnow
    · rw [Function.update_of_ne hwho] at hi
      exact hkept r workflowId ⟨i, hi⟩
  exact ⟨hturns.sound h.sound, fun i r workflowId hi => (hall i r workflowId hi).1,
    fun i r workflowId hi => (hall i r workflowId hi).2⟩

/-! ## Plays -/

variable {z : Unit × State} {p : Unit × State} {phase : Nat → Phase}

theorem plays_consistent (hempty : z.2.tasks = .empty)
    (h : Plays climate (fun _ => s.contract) z history p phase) : Consistent p.2.tasks phase := by
  induction h with
  | start =>
    rw [hempty]
    exact ⟨Table.sound_empty, fun _ _ _ hi => (nomatch hi), fun _ _ _ hi => (nomatch hi)⟩
  | turn who _ hmoves ih => exact ih.turn hmoves
  | happen _ hsame ih => exact (show _ = _ from hsame) ▸ ih

/-- The execution that a call reports has ended in the call's last turn. -/
theorem plays_concluded (hempty : z.2.tasks = .empty)
    (h : Plays climate (fun _ => s.contract) z history p phase)
    (hi : phase i = .concluded r result) : ∃ m workflowId, lastTurn? history i = some m ∧
      m.before.2.tasks.Sound ∧
      (∀ r' ∈ m.before.2.tasks.records, r'.serial = r.serial → r'.taskId = r.taskId) ∧
      s.Concludes r workflowId result m.before.2 m.after.2 := by
  induction h with
  | start => cases hi
  | turn who hplays hmoves ih =>
    by_cases hwho : i = who
    · subst hwho
      rw [Function.update_self] at hi
      subst hi
      obtain ⟨workflowId, hφ, hconcludes⟩ := Turns.concluded hmoves
      have hconsistent := plays_consistent hempty hplays
      exact ⟨_, workflowId, lastTurn?_append_self rfl, hconsistent.sound,
        fun r' hr' hserial => (hconsistent.same i r workflowId hφ r' hr' hserial).1, hconcludes⟩
    · rw [Function.update_of_ne hwho] at hi
      rw [lastTurn?_append_of_ne (Ne.symm hwho)]
      exact ih hi
  | happen _ _ ih => exact ih hi

/-- A call reports an execution exactly if it is in the phase that says so. -/
theorem stands_concluded {stage : Stage State Ask Ask.Reply Report}
    (h : s.contract.Stands climate stage φ) :
    stage = .ended (.ok (.executed r result)) ↔ φ = .concluded r result := by
  constructor
  · rintro rfl
    cases φ with
    | concluded r' result' =>
      cases h
      rfl
    | past => exact absurd rfl (h r result)
    | fresh | executing => exact h.elim
  · rintro rfl
    cases stage with
    | idle => cases h
    | asking q next => exact h.1.elim
    | ended report =>
      cases h
      rfl

end

/-! ## Calls one after the other -/

/-- Answers of a browser that does as it is asked and shows no challenge. -/
def issuing : (q : Ask) → Ask.Reply q
  | .freshId => "fresh"
  | q => Runner.obliging false q

theorem issuing_answers (q : Ask) (x : Unit × State) : climate.answers q x (issuing q) x.1 := by
  cases q with
  | freshId => exact nofun
  | _ => trivial

theorem settles_climate : climate.Settles fun _ => none :=
  ⟨fun _ _ => id, fun _ _ hnow => nomatch hnow⟩

def plainService : Service := { Runner.sampleService with coordinator := none }

/-- A call is made and answered until it ends, or `times` times. -/
def serve (e : Ensemble State Ask Ask.Reply Unit Report)
    (task : Nat → Activity Report) (who times : Nat) : Ensemble State Ask Ask.Reply Unit Report :=
  (e.call (fun _ => none) who (task who)).replies (fun _ => none) who issuing times

theorem reaches_serve {task : Nat → Activity Report} {x : Unit × State} {history : History}
    {e : Ensemble State Ask Ask.Reply Unit Report} (h : Reaches climate task x history e)
    (who times : Nat) (hidle : e.stage who = .idle) :
    ∃ history', Reaches climate task x history' (serve e task who times) :=
  (h.call settles_climate who hidle trivial).replies settles_climate issuing issuing_answers who
    times

end Pageflow.Service
