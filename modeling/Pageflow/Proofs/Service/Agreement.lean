import Pageflow.Proofs.Service.Requests
import Pageflow.Proofs.Workflow.Accounts

/-! How a task has ended is said alike by its record and by its latest event, whatever requests
there are and in whatever order their turns come, as long as its execution is not cancelled. An
execution whose pause is cancelled tells nothing of its end. -/
namespace Pageflow.Service.Agreement
open Browser

/-- The tasks that requests run under ids of their own. -/
def Named (requests : Nat → Request) (id : String) : Prop := ∃ i, (requests i).taskId? = some id

/-- All calls stand as they do, no task is in the hands of two, and one that is in the hands of
none is in order. -/
structure Consistent (s : Service) (requests : Nat → Request) (x : Site)
    (stance : Nat → Stance) : Prop where
  good : ∀ i, Good s (Named requests) (stance i) x
  apart : ∀ i j id, (stance i).task? = some id → (stance j).task? = some id → i = j
  settled : ∀ id, (∃ i, (stance i).task? = some id) ∨ Settled s x.2 id
  /-- Only calls have tasks in hand. -/
  calls : ∀ i, (∀ c, requests i ≠ .call c) → (stance i).task? = none

variable {s : Service} {requests : Nat → Request} {x y z : Site} {stance : Nat → Stance}
  {who i : Nat} {φ : Stance} {id : String}

namespace Consistent

theorem not_deals (hc : Consistent s requests x stance) (hne : i ≠ who)
    (hhand : (stance i).task? = some id) : ¬ Deals (Named requests) (stance who) x y id := by
  rintro (hother | ⟨hunnamed, hnew, -⟩)
  · exact hne (hc.apart i who id hhand hother)
  · exact ((hc.good i).known id hhand).elim hunnamed hnew

/-- The turn of a call that runs workflows. -/
theorem moves (hc : Consistent s requests x stance) {c : Call} (hcall : requests who = .call c)
    (h : Moves s (Named requests) (stance who) x φ y) :
    Consistent s requests y (Function.update stance who φ) where
  good := by
    refine (Function.forall_update_iff stance fun _ φ => Good s (Named requests) φ y).mpr
      ⟨h.good, fun i hi => ⟨h.good.orderly, h.good.fresh, fun id hid => ?_, ?_⟩⟩
    · exact ((hc.good i).known id hid).imp_right (h.issued ·)
    · exact (hc.good i).stands.beside fun id hid => h.others id (hc.not_deals hi hid)
  apart := by
    -- If another call had the task in hand, this one could not have dealt with it.
    refine apart_update (P := fun (φ : Stance) id => φ.task? = some id) hc.apart
      fun i id hi hhand hother => ?_
    exact hc.not_deals hi hother (h.dealt id hhand)
  settled id := by
    by_cases hdeals : Deals (Named requests) (stance who) x y id
    · refine (h.settled id hdeals).imp_left fun hhand => ⟨who, ?_⟩
      rw [Function.update_self]
      exact hhand
    · rcases hc.settled id with ⟨i, hhand⟩ | hsettled
      · have hi : i ≠ who := by
          rintro rfl
          exact hdeals (.inl hhand)
        refine .inl ⟨i, ?_⟩
        rw [Function.update_of_ne hi]
        exact hhand
      · exact .inr (hsettled.beside (h.others id hdeals))
  calls i hi := by
    have hne : i ≠ who := by
      rintro rfl
      exact hi c hcall
    rw [Function.update_of_ne hne]
    exact hc.calls i hi

theorem leaves (hc : Consistent s requests x stance) (h : Leaves s x y) :
    Consistent s requests y stance where
  good i := (hc.good i).leaves h
  apart := hc.apart
  settled id := (hc.settled id).imp_right fun hsettled => hsettled.beside (h.beside id)
  calls := hc.calls

theorem accepts (hc : Consistent s requests x stance) {h : Pause.Handle} (hissued : x.1 ⊆ y.1)
    (horderly : Orderly s y.2) (haccepts : Accepts s h x.2 y.2) :
    Consistent s requests y stance where
  good i := by
    refine ⟨horderly, fun id hunnamed hnew => ?_, fun id hid => ?_,
      (hc.good i).stands.accepts haccepts⟩
    · have hfresh := (hc.good i).fresh id hunnamed fun hid => hnew (hissued hid)
      exact hfresh.beside (haccepts.beside hfresh.unpaused)
    · exact ((hc.good i).known id hid).imp_right (hissued ·)
  apart := hc.apart
  settled id := (hc.settled id).imp_right fun hsettled =>
    hsettled.beside (haccepts.beside hsettled.unpaused)
  calls := hc.calls

/-- A request that has no task in hand comes to stand otherwise, still without one. -/
theorem restand (hc : Consistent s requests x stance) (hbefore : (stance who).task? = none)
    (hnow : φ.task? = none) (hat : φ.At s x.2) :
    Consistent s requests x (Function.update stance who φ) := by
  have hsame : ∀ i, (Function.update stance who φ i).task? = (stance i).task? := by
    intro i
    by_cases hi : i = who
    · rw [hi, Function.update_self, hbefore, hnow]
    · rw [Function.update_of_ne hi]
  refine ⟨fun i => ⟨(hc.good i).orderly, (hc.good i).fresh, fun id => ?_, ?_⟩, fun i j id => ?_,
    fun id => ?_, fun i => ?_⟩
  · rw [hsame]
    exact (hc.good i).known id
  · by_cases hi : i = who
    · rw [hi, Function.update_self]
      exact hat
    · rw [Function.update_of_ne hi]
      exact (hc.good i).stands
  · rw [hsame, hsame]
    exact hc.apart i j id
  · simp only [hsame]
    exact hc.settled id
  · rw [hsame]
    exact hc.calls i

theorem turn (hc : Consistent s requests x stance)
    (h : (contract s (Named requests) (requests who)).moves (stance who) x φ y) :
    Consistent s requests y (Function.update stance who φ) := by
  have hrequest : (∀ c, requests who ≠ .call c) →
      (requestContract s (Named requests)).moves (stance who) x φ y →
      Consistent s requests y (Function.update stance who φ) := by
    intro hrequest h
    have hhand := hc.calls who hrequest
    cases φ with
    | silent taskId =>
      cases taskId with
      | none => exact (hc.leaves h.1).restand hhand rfl fun _ hid => nomatch hid
      | some id => exact h.elim
    | accepted =>
      obtain ⟨hissued, horderly, handle, haccepts⟩ := h
      exact (hc.accepts hissued horderly haccepts).restand hhand rfl trivial
    | going | paused | closing | broken => exact h.elim
  cases hwho : requests who with
  | call c =>
    rw [hwho] at h
    exact hc.moves hwho h
  | resume | cancel =>
    rw [hwho] at h hrequest
    exact hrequest (fun _ => nofun) h

end Consistent

theorem start_contract (s : Service) (named : String → Prop) (request : Request) :
    (contract s named request).start = .silent request.taskId? := by
  cases request <;> rfl

/-- A service that has run nothing yet. -/
structure Ready (s : Service) (x : State) : Prop where
  orderly : Orderly s x
  untouched : ∀ id, Untouched s x id

/-- No two requests run a task under one id. -/
def Distinct (requests : Nat → Request) : Prop :=
  ∀ i j id, (requests i).taskId? = some id → (requests j).taskId? = some id → i = j

theorem Ready.consistent (hready : Ready s x.2) (hdistinct : Distinct requests) :
    Consistent s requests x fun i => (contract s (Named requests) (requests i)).start := by
  simp only [start_contract]
  exact {
    good := fun i => ⟨hready.orderly, fun id _ _ => hready.untouched id,
      fun id hid => .inl ⟨i, hid⟩, fun id _ => hready.untouched id⟩
    apart := hdistinct
    settled := fun id => .inr (hready.untouched id).settled
    calls := fun i hi => by
      cases hrequest : requests i with
      | call c => exact absurd hrequest (hi c)
      | resume | cancel => rfl }

/-- Whatever the order of the turns, all calls stand as they do. -/
theorem plays_consistent {history : List (Move State (List String))} (hready : Ready s x.2)
    (hdistinct : Distinct requests)
    (h : Plays (climate s (Named requests)) (fun i => contract s (Named requests) (requests i)) x
      history y stance) : Consistent s requests y stance := by
  induction h with
  | start => exact hready.consistent hdistinct
  | turn who _ hmoves ih => exact ih.turn hmoves
  | happen _ hhappens ih => exact ih.leaves (hhappens.2.leaves hhappens.1)

theorem isFinal_of_name_eq {status : TaskStatus} {told : Progress.Status}
    (hname : told.name = status.name) (hfinal : status.isFinal = true) : told.isFinal = true := by
  revert hname hfinal
  cases told <;> cases status <;> decide

/-- A call stands as one that was cancelled exactly if it has reported so. -/
theorem stands_broken {r : TaskRecord} {named : String → Prop} {request : Request}
    {stage : Stage State Ask Ask.Reply Outcome}
    (h : (contract s named request).Stands (climate s named) stage φ)
    (hrequest : (∀ c, request ≠ .call c) → φ.task? = none) :
    φ = .broken r ↔ stage = .ended (.ok (.reported (.executed r (.error .cancelled)))) := by
  cases request with
  | call c =>
    constructor
    · rintro rfl
      cases stage with
      | idle => cases h
      | asking q next => exact h.1.elim
      | ended result => exact congrArg Stage.ended h
    · rintro rfl
      cases φ with
      | silent => exact absurd rfl (h r)
      | broken r' =>
        cases h
        rfl
      | going | paused | closing | accepted => exact h.elim
  | resume | cancel =>
    constructor
    · rintro rfl
      exact nomatch hrequest (fun _ => nofun)
    · rintro rfl
      exact absurd rfl (h _)

/-- In a consistent state table and events agree on a task unless an execution of it was
cancelled and has left its record. -/
theorem Consistent.agrees_iff_broken (hc : Consistent s requests x stance) (id : String) :
    Agrees s x.2 id ↔
      ∀ i r, stance i = .broken r → r.taskId = id → x.2.tasks.get? id = none := by
  constructor
  · rintro hagrees i r hbroken rfl
    have hstands := (hc.good i).stands
    rw [hbroken] at hstands
    cases hrecord : x.2.tasks.get? r.taskId with
    | none => rfl
    | some r' =>
      obtain ⟨hfinal, e, hlatest, hopen⟩ := hstands.2 r' hrecord
      rw [isFinal_of_name_eq (hagrees r' e hrecord hfinal hlatest) hfinal] at hopen
      cases hopen
  · intro hgone
    rcases hc.settled id with ⟨i, hhand⟩ | hsettled
    · -- A call has the task in hand, and the record has ended: the call was cancelled.
      intro r e hrecord hfinal hlatest
      have hstands := (hc.good i).stands
      have hrunning : ∀ r', r'.taskId = id → ¬ Running x.2 r' := by
        rintro r' rfl ⟨r'', hr'', -, hstatus⟩
        obtain rfl := Option.some.inj (hrecord.symm.trans hr'')
        rw [hstatus] at hfinal
        cases hfinal
      cases hstance : stance i with
      | silent taskId =>
        rw [hstance] at hstands hhand
        have hopen := (hstands id hhand).unended r hrecord
        rw [hopen] at hfinal
        cases hfinal
      | going r' | paused r' | closing r' =>
        rw [hstance] at hstands hhand
        exact absurd hstands.1 (hrunning r' (Option.some.inj hhand))
      | broken r' =>
        rw [hstance] at hhand
        have hnone := hgone i r' hstance (Option.some.inj hhand)
        rw [hrecord] at hnone
        cases hnone
      | accepted =>
        rw [hstance] at hhand
        cases hhand
    · exact hsettled.agrees

/-- Runs with distinct ids of tasks, requests to resume and to cancel pauses, in any order of
their turns: the record of a task and its latest event agree on how it ended exactly if no
execution of it was cancelled or its record is gone. -/
theorem agrees_iff (s : Service)
    (hpauses : ∀ c ∈ s.coordinator, c.channel = Progress.busChannel) (requests : Nat → Request)
    (hdistinct : Distinct requests) {x : Site} (hready : Ready s x.2)
    {history : List (Move State (List String))}
    {e : Ensemble State Ask Ask.Reply (List String) Outcome}
    (h : Reaches (climate s (Named requests)) (fun i => (requests i).run s) x history e)
    (id : String) : Agrees s e.site.2 id ↔ ∀ i r,
      e.stage i = .ended (.ok (.reported (.executed r (.error .cancelled)))) → r.taskId = id →
        e.site.2.tasks.get? id = none := by
  have hrely : ∀ i stance y, Good s (Named requests) stance y ↔
      (contract s (Named requests) (requests i)).rely stance y := by
    intro i stance y
    cases requests i <;> exact Iff.rfl
  obtain ⟨stance, hplays, hstands⟩ := h.plays
    (fun i => contract s (Named requests) (requests i))
    (fun i y _ hgood => keeps_request hpauses (requests i) ((hrely i _ y).mpr hgood))
    (fun _ y stance hplays i =>
      (hrely i (stance i) y).mp ((plays_consistent hready hdistinct hplays).good i))
  have hc := plays_consistent hready hdistinct hplays
  rw [hc.agrees_iff_broken]
  exact forall₂_congr fun i r => by rw [stands_broken (hstands i) (hc.calls i)]

/-! ## A pause that is cancelled -/

def cancelledOnce : Nat → Request
  | 0 => .call (.runWorkflow Runner.sampleWorkflow Runner.sampleContext)
  | _ => .cancel "t"

theorem distinct_cancelledOnce : Distinct cancelledOnce := by
  have honly : ∀ i id, (cancelledOnce i).taskId? = some id → i = 0 := by
    rintro (_ | i) id hid
    · rfl
    · cases hid
  exact fun i j id hi hj => (honly i id hi).trans (honly j id hj).symm

abbrev cancelledTasks (i : Nat) : Activity Outcome := (cancelledOnce i).run Runner.sampleService

/-- What is answered at once to a request that asks for no id. -/
def answerNow : (q : Ask) → Option (Ask.Reply q)
  | .freshId => none
  | q => Runner.atOnce q

theorem issued_of_ne {named : String → Prop} {q : Ask} {reply : Ask.Reply q} {w : List String}
    (h : q ≠ .freshId) : q.Issued named reply w w := by
  cases q with
  | freshId => exact absurd rfl h
  | _ => exact rfl

theorem answerNow_answers {named : String → Prop} (q : Ask) (reply : Ask.Reply q)
    (hnow : answerNow q = some reply) : (climate s named).atOnce q ∧
      ∀ x, (climate s named).answers q x reply x.1 := by
  unfold answerNow at hnow
  split at hnow
  · cases hnow
  · rename_i hne
    unfold Runner.atOnce at hnow
    split at hnow
    · cases hnow
    · cases hnow
      exact ⟨Bool.eq_false_iff.mpr ‹_›, fun x => ⟨q.spares_refused, issued_of_ne hne⟩⟩

theorem obliging_answers {named : String → Prop} (challenge : Bool) (q : Ask) (x : Site)
    (hwaits : ¬ (climate s named).atOnce q) :
    (climate s named).answers q x (Runner.obliging challenge q) x.1 := by
  refine ⟨Runner.spares_obliging challenge q, issued_of_ne ?_⟩
  rintro rfl
  exact hwaits rfl

def waiting : Stage State Ask Ask.Reply Outcome → Bool
  | .asking q _ => q.suspends
  | _ => true

theorem waits_of_waiting {named : String → Prop} {stage : Stage State Ask Ask.Reply Outcome}
    (h : waiting stage = true) : stage.Waits (climate s named) := by
  rintro q next rfl honce
  exact Bool.false_ne_true (honce.symm.trans h)

/-- One sink that keeps the latest event of each task. -/
def quietState : Site := ([], { bus := (Progress.Bus.empty.add (.latest (.empty 8)) none).2 })

theorem ready_quietState : Ready Runner.sampleService quietState.2 where
  orderly := ⟨Table.sound_empty, ⟨_, rfl, Progress.Store.sound_empty _⟩, fun _ => rfl⟩
  untouched _ := ⟨fun _ hmem => (nomatch hmem), fun _ hrecord => (nomatch hrecord), rfl⟩

def started : Ensemble State Ask Ask.Reply (List String) Outcome :=
  (Ensemble.start quietState).call answerNow 0 (cancelledTasks 0)

/-- The run has met a challenge and waits; then its pause is cancelled. -/
def cancelling : Ensemble State Ask Ask.Reply (List String) Outcome :=
  (started.replies answerNow 0 (Runner.obliging true) 14).call answerNow 1 (cancelledTasks 1)

def cancelledRun : Ensemble State Ask Ask.Reply (List String) Outcome :=
  cancelling.replies answerNow 0 (Runner.obliging false) 6

theorem reaches_cancelledRun : ∃ history,
    Reaches (climate Runner.sampleService (Named cancelledOnce)) cancelledTasks quietState history
      cancelledRun := by
  have hstart : Reaches (climate Runner.sampleService (Named cancelledOnce)) cancelledTasks
      quietState [] _ := .start
  have hstarted := hstart.call_of_waits answerNow_answers 0 rfl trivial
    (waits_of_waiting (by decide +kernel))
  obtain ⟨_, hpaused⟩ := hstarted.replies_of_waits answerNow_answers (Runner.obliging true)
    (obliging_answers true) 0 14 fun n hn => waits_of_waiting
      (show waiting ((started.replies answerNow 0 (Runner.obliging true) n).stage 0) = true by
        revert n; decide +kernel)
  have hcancelled := hpaused.call_of_waits answerNow_answers 1
    (Ensemble.replies_stage_of_ne Nat.one_ne_zero ..) trivial (waits_of_waiting (by decide +kernel))
  exact hcancelled.replies_of_waits answerNow_answers (Runner.obliging false)
    (obliging_answers false) 0 6 fun n hn => waits_of_waiting
      (show waiting ((cancelling.replies answerNow 0 (Runner.obliging false) n).stage 0) = true by
        revert n; decide +kernel)

theorem agrees_iff_cancelledRun : ∃ history,
    Reaches (climate Runner.sampleService (Named cancelledOnce)) cancelledTasks quietState history
      cancelledRun ∧
    Distinct cancelledOnce ∧ Ready Runner.sampleService quietState.2 ∧
    (Agrees Runner.sampleService cancelledRun.site.2 "t" ↔ ∀ i r, cancelledRun.stage i =
      .ended (.ok (.reported (.executed r (.error .cancelled)))) → r.taskId = "t" →
        cancelledRun.site.2.tasks.get? "t" = none) := by
  obtain ⟨history, hreaches⟩ := reaches_cancelledRun
  refine ⟨history, hreaches, distinct_cancelledOnce, ready_quietState, ?_⟩
  exact agrees_iff Runner.sampleService (fun c hc => by cases hc; rfl) cancelledOnce
    distinct_cancelledOnce ready_quietState hreaches "t"

/-- The record has failed, and the latest event says that the task is paused. -/
theorem cancelledRun_not_agrees :
    (∃ history, Reaches (climate Runner.sampleService (Named cancelledOnce)) cancelledTasks
      quietState history cancelledRun) ∧
    ¬ Agrees Runner.sampleService cancelledRun.site.2 "t" := by
  refine ⟨reaches_cancelledRun, fun hagrees => ?_⟩
  have hparts : ∃ r ∈ cancelledRun.site.2.tasks.get? "t", r.status.isFinal = true ∧
      ∃ e ∈ Runner.sampleService.latest? cancelledRun.site.2 "t",
        e.status.name ≠ r.status.name := by
    decide +kernel
  obtain ⟨r, hrecord, hfinal, e, hlatest, hne⟩ := hparts
  exact hne (hagrees r e hrecord hfinal hlatest)

end Pageflow.Service.Agreement
