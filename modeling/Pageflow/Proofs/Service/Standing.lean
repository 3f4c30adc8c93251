import Pageflow.Proofs.Progress.Latest
import Pageflow.Proofs.Progress.Watch
import Pageflow.Proofs.Service.Table
import Pageflow.Service.Basic

/-! How a task stands: its record, its latest event and its pauses. A call has one task in hand
at a time; what it does to the other tasks is no more than that what has ended may be dropped. -/
namespace Pageflow.Service
open Pause (Handle)

/-- The table of tasks is in order, and every event reaches the store of latest events once. -/
structure Orderly (s : Service) (x : State) : Prop where
  tasks : x.tasks.Sound
  store : ∃ store, x.bus.sink? s.progress = some (.latest store) ∧ store.Sound
  once : ∀ taskId, (x.bus.audience taskId).count s.progress = 1

def Unpaused (x : State) (taskId : String) : Prop := ∀ h ∈ x.board.handles, h.taskId ≠ taskId

/-- The record is in the table, and its task is running. -/
def Running (x : State) (r : TaskRecord) : Prop :=
  ∃ r', x.tasks.get? r.taskId = some r' ∧ r'.serial = r.serial ∧ r'.status = .running

/-- The latest event of the task does not say that it has ended. -/
def Unfinished (s : Service) (x : State) (taskId : String) : Prop :=
  ∃ e, s.latest? x taskId = some e ∧ e.status.isFinal = false

/-- A task that has not been run. -/
structure Untouched (s : Service) (x : State) (taskId : String) : Prop where
  unpaused : Unpaused x taskId
  unended : ∀ r, x.tasks.get? taskId = some r → r.status.isFinal = false
  silent : s.latest? x taskId = none

/-- If the task has ended, its latest event says the same. -/
def Agrees (s : Service) (x : State) (taskId : String) : Prop :=
  ∀ r e, x.tasks.get? taskId = some r → r.status.isFinal = true →
    s.latest? x taskId = some e → e.status.name = r.status.name

/-- A task that no call has in hand. -/
structure Settled (s : Service) (x : State) (taskId : String) : Prop where
  unpaused : Unpaused x taskId
  agrees : Agrees s x taskId

/-- What becomes of the record and the latest event of a task that others have nothing to do
with: what has ended may be dropped. -/
inductive Fate (s : Service) (taskId : String) (x y : State) : Prop where
  | same (hrecord : y.tasks.get? taskId = x.tasks.get? taskId)
    (hevent : s.latest? y taskId = s.latest? x taskId)
  | evicted (e : Progress.Event) (hrecord : y.tasks.get? taskId = x.tasks.get? taskId)
    (hevent : s.latest? x taskId = some e) (hfinal : e.status.isFinal = true)
    (hgone : s.latest? y taskId = none)
  | dropped (r : TaskRecord) (hrecord : x.tasks.get? taskId = some r)
    (hfinal : r.status.isFinal = true) (hgone : y.tasks.get? taskId = none)
    (hsilent : s.latest? y taskId = none)

/-- What happens beside a task. -/
structure Beside (s : Service) (taskId : String) (x y : State) : Prop where
  handles : ∀ h ∈ y.board.handles, h.taskId = taskId → h ∈ x.board.handles
  fate : Fate s taskId x y

/-- A pause is resumed, and this is told. -/
structure Accepts (s : Service) (h : Handle) (x y : State) : Prop where
  paused : h ∈ x.board.handles
  handles : ∀ h' ∈ y.board.handles, h'.taskId = h.taskId → h' ∈ x.board.handles
  record : ∀ r, x.tasks.get? h.taskId = some r → r.status.isFinal = false →
    y.tasks.get? h.taskId = some r
  told : Unfinished s y h.taskId
  others : ∀ taskId, taskId ≠ h.taskId → Beside s taskId x y

section

variable {s : Service} {x y z : State} {taskId : String} {r : TaskRecord} {h : Handle}

theorem Fate.trans (h : Fate s taskId x y) (h' : Fate s taskId y z) : Fate s taskId x z := by
  cases h with
  | same hrecord hevent =>
    cases h' with
    | same hrecord' hevent' => exact .same (hrecord'.trans hrecord) (hevent'.trans hevent)
    | evicted e hrecord' hevent' hfinal hgone =>
      exact .evicted e (hrecord'.trans hrecord) (hevent.symm.trans hevent') hfinal hgone
    | dropped r hrecord' hfinal hgone hsilent =>
      exact .dropped r (hrecord.symm.trans hrecord') hfinal hgone hsilent
  | evicted e hrecord hevent hfinal hgone =>
    cases h' with
    | same hrecord' hevent' =>
      exact .evicted e (hrecord'.trans hrecord) hevent hfinal (hevent'.trans hgone)
    | evicted e' hrecord' hevent' =>
      rw [hgone] at hevent'
      cases hevent'
    | dropped r hrecord' hfinal' hgone' hsilent =>
      exact .dropped r (hrecord.symm.trans hrecord') hfinal' hgone' hsilent
  | dropped r hrecord hfinal hgone hsilent =>
    cases h' with
    | same hrecord' hevent' =>
      exact .dropped r hrecord hfinal (hrecord'.trans hgone) (hevent'.trans hsilent)
    | evicted e' hrecord' hevent' =>
      rw [hsilent] at hevent'
      cases hevent'
    | dropped r' hrecord' =>
      rw [hgone] at hrecord'
      cases hrecord'

theorem Beside.refl : Beside s taskId x x := ⟨fun _ hmem _ => hmem, .same rfl rfl⟩

theorem Beside.trans (h : Beside s taskId x y) (h' : Beside s taskId y z) :
    Beside s taskId x z where
  handles handle hmem htask := h.handles handle (h'.handles handle hmem htask) htask
  fate := h.fate.trans h'.fate

theorem Beside.unpaused (hbeside : Beside s taskId x y) (h : Unpaused x taskId) :
    Unpaused y taskId :=
  fun handle hmem htask => h handle (hbeside.handles handle hmem htask) htask

theorem Beside.record_of_open (hbeside : Beside s taskId x y)
    (hrecord : x.tasks.get? taskId = some r) (hopen : r.status.isFinal = false) :
    y.tasks.get? taskId = some r := by
  cases hbeside.fate with
  | same hsame => exact hsame.trans hrecord
  | evicted e hsame => exact hsame.trans hrecord
  | dropped r' hrecord' hfinal =>
    obtain rfl := Option.some.inj (hrecord.symm.trans hrecord')
    rw [hopen] at hfinal
    cases hfinal

theorem Beside.running (hbeside : Beside s r.taskId x y) (h : Running x r) : Running y r := by
  obtain ⟨r', hrecord, hserial, hstatus⟩ := h
  exact ⟨r', hbeside.record_of_open hrecord (by rw [hstatus]; rfl), hserial, hstatus⟩

theorem Beside.silent (hbeside : Beside s taskId x y) (h : s.latest? x taskId = none) :
    s.latest? y taskId = none := by
  cases hbeside.fate with
  | same hrecord hevent => exact hevent.trans h
  | evicted e hrecord hevent hfinal hgone => exact hgone
  | dropped r hrecord hfinal hgone hsilent => exact hsilent

/-- What is latest afterwards was so before. -/
theorem Beside.latest (hbeside : Beside s taskId x y) {e : Progress.Event}
    (h : s.latest? y taskId = some e) : s.latest? x taskId = some e := by
  cases hbeside.fate with
  | same hrecord hevent => exact hevent.symm.trans h
  | evicted e' hrecord hevent hfinal hgone =>
    rw [hgone] at h
    cases h
  | dropped r hrecord hfinal hgone hsilent =>
    rw [hsilent] at h
    cases h

theorem Beside.record (hbeside : Beside s taskId x y) (h : y.tasks.get? taskId = some r) :
    x.tasks.get? taskId = some r := by
  cases hbeside.fate with
  | same hrecord => exact hrecord.symm.trans h
  | evicted e hrecord => exact hrecord.symm.trans h
  | dropped r' hrecord hfinal hgone =>
    rw [hgone] at h
    cases h

/-- As long as there is the record, an event that is not final stays. -/
theorem Beside.unfinished (hbeside : Beside s taskId x y)
    (hrecord : y.tasks.get? taskId = some r) (h : Unfinished s x taskId) :
    Unfinished s y taskId := by
  obtain ⟨e, he, hopen⟩ := h
  cases hbeside.fate with
  | same hsame hevent => exact ⟨e, hevent.trans he, hopen⟩
  | evicted e' hsame hevent hfinal =>
    obtain rfl := Option.some.inj (he.symm.trans hevent)
    rw [hopen] at hfinal
    cases hfinal
  | dropped r' hrecord' hfinal hgone =>
    rw [hgone] at hrecord
    cases hrecord

theorem Untouched.beside (h : Untouched s x taskId) (hbeside : Beside s taskId x y) :
    Untouched s y taskId where
  unpaused := hbeside.unpaused h.unpaused
  unended r hrecord := h.unended r (hbeside.record hrecord)
  silent := hbeside.silent h.silent

theorem Untouched.settled (h : Untouched s x taskId) : Settled s x taskId where
  unpaused := h.unpaused
  agrees r e _ _ hevent := by
    rw [h.silent] at hevent
    cases hevent

theorem Settled.beside (h : Settled s x taskId) (hbeside : Beside s taskId x y) :
    Settled s y taskId where
  unpaused := hbeside.unpaused h.unpaused
  agrees r e hrecord hfinal hevent :=
    h.agrees r e (hbeside.record hrecord) hfinal (hbeside.latest hevent)

/-- A resumption happens beside a task that is not paused. -/
theorem Accepts.beside (haccepts : Accepts s h x y) (hunpaused : Unpaused x taskId) :
    Beside s taskId x y :=
  haccepts.others taskId fun heq => hunpaused h haccepts.paused heq.symm

theorem Accepts.trans (hbeside : ∀ taskId, Beside s taskId x y) (haccepts : Accepts s h y z) :
    Accepts s h x z where
  paused := (hbeside h.taskId).handles h haccepts.paused rfl
  handles h' hmem htask := (hbeside h.taskId).handles h' (haccepts.handles h' hmem htask) htask
  record r hrecord hopen :=
    haccepts.record r ((hbeside h.taskId).record_of_open hrecord hopen) hopen
  told := haccepts.told
  others taskId hne := (hbeside taskId).trans (haccepts.others taskId hne)

end

/-! ## Calls -/

/-- How far a call has come with the task that it has in hand. -/
inductive Stance where
  /-- No task is in hand, or one that has not been run. -/
  | silent (taskId : Option String)
  /-- An execution is under way; of a task that is `told` of there has been an event. -/
  | going (r : TaskRecord) (told : Bool)
  | paused (r : TaskRecord) (h : Handle)
  /-- It has been told how the execution ended. -/
  | closing (r : TaskRecord) (status : Progress.Status)
  /-- The execution was cancelled. -/
  | broken (r : TaskRecord)
  /-- A request to resume a task was accepted. -/
  | accepted

namespace Stance

/-- The task in hand. -/
def task? : Stance → Option String
  | .silent taskId => taskId
  | .going r _ | .paused r _ | .closing r _ | .broken r => some r.taskId
  | .accepted => none

/-- Whether a call may wait in this stance. -/
def Rests : Stance → Prop
  | .silent _ | .going _ _ | .paused _ _ => True
  | .closing _ _ | .broken _ | .accepted => False

/-- How the task in hand stands. -/
def At (s : Service) (x : State) : Stance → Prop
  | .silent taskId => ∀ id ∈ taskId, Untouched s x id
  | .going r told => Running x r ∧ Unpaused x r.taskId ∧
      if told then Unfinished s x r.taskId else s.latest? x r.taskId = none
  | .paused r h => Running x r ∧ (∀ h' ∈ x.board.handles, h'.taskId = r.taskId → h' = h) ∧
      Unfinished s x r.taskId
  | .closing r status => Running x r ∧ Unpaused x r.taskId ∧
      ∀ e, s.latest? x r.taskId = some e → e.status = status
  | .broken r => Unpaused x r.taskId ∧ ∀ r', x.tasks.get? r.taskId = some r' →
      r'.status.isFinal = true ∧ Unfinished s x r.taskId
  | .accepted => True

variable {s : Service} {x y : State} {φ : Stance} {h : Handle}

theorem At.beside (hat : φ.At s x) (hbeside : ∀ id, φ.task? = some id → Beside s id x y) :
    φ.At s y := by
  cases φ with
  | silent taskId => exact fun id hid => (hat id hid).beside (hbeside id hid)
  | going r told =>
    obtain ⟨hrunning, hunpaused, htold⟩ := hat
    have hb := hbeside r.taskId rfl
    have hrunning' := hb.running hrunning
    refine ⟨hrunning', hb.unpaused hunpaused, ?_⟩
    obtain ⟨r', hrecord, -⟩ := hrunning'
    cases told with
    | true => exact hb.unfinished hrecord htold
    | false => exact hb.silent htold
  | paused r h' =>
    obtain ⟨hrunning, honly, htold⟩ := hat
    have hb := hbeside r.taskId rfl
    have hrunning' := hb.running hrunning
    refine ⟨hrunning', fun h hmem htask => honly h (hb.handles h hmem htask) htask, ?_⟩
    obtain ⟨r', hrecord, -⟩ := hrunning'
    exact hb.unfinished hrecord htold
  | closing r status =>
    obtain ⟨hrunning, hunpaused, hlast⟩ := hat
    have hb := hbeside r.taskId rfl
    exact ⟨hb.running hrunning, hb.unpaused hunpaused, fun e he => hlast e (hb.latest he)⟩
  | broken r =>
    obtain ⟨hunpaused, hrecords⟩ := hat
    have hb := hbeside r.taskId rfl
    refine ⟨hb.unpaused hunpaused, fun r' hrecord => ?_⟩
    obtain ⟨hfinal, htold⟩ := hrecords r' (hb.record hrecord)
    exact ⟨hfinal, hb.unfinished hrecord htold⟩
  | accepted => trivial

/-- What a call finds when a pause was resumed meanwhile, be it its own. -/
theorem At.accepts (hat : φ.At s x) (haccepts : Accepts s h x y) : φ.At s y := by
  have hother : ∀ id, Unpaused x id → Beside s id x y := fun _ => haccepts.beside
  cases φ with
  | silent taskId => exact fun id hid => (hat id hid).beside (hother id (hat id hid).unpaused)
  | going r told => exact hat.beside fun | _, rfl => hother _ hat.2.1
  | paused r h' =>
    by_cases htask : r.taskId = h.taskId
    · -- Its own pause: only here the other call has told something of the task.
      obtain ⟨⟨r', hrecord, hserial, hstatus⟩, honly, -⟩ := hat
      have htold := haccepts.told
      rw [← htask] at htold
      refine ⟨⟨r', ?_, hserial, hstatus⟩, fun h₀ hmem htask₀ => ?_, htold⟩
      · rw [htask] at hrecord ⊢
        exact haccepts.record r' hrecord (by rw [hstatus]; rfl)
      · exact honly h₀ (haccepts.handles h₀ hmem (htask₀.trans htask)) htask₀
    · exact At.beside (φ := .paused r h') hat fun | _, rfl => haccepts.others _ htask
  | closing r status => exact hat.beside fun | _, rfl => hother _ hat.2.1
  | broken r => exact hat.beside fun | _, rfl => hother _ hat.1
  | accepted => trivial

end Stance
end Pageflow.Service
