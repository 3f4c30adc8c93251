import Pageflow.Proofs.Pause.Board
import Pageflow.Proofs.Progress.Watch
import Pageflow.Workflow.Run
/-! The courses that a run can take, and what is told of each: every step begun, the
pauses in it, and how the run ended. -/
namespace Pageflow

open Progress

/-- An event without the time it happened at. -/
def Progress.Event.undated (e : Event) : Event := { e with timestamp := "" }

namespace Runner

section

variable (taskId : String) (total index : Nat)

def stepBegins (step : Step) : Event :=
  ⟨taskId, .running, index, total,
    if step.description.isEmpty then step.action.name else step.description, ""⟩

def pauseBegins : Event :=
  ⟨taskId, .paused, index, total,
    "Verification challenge detected; waiting for an operator to resolve it", ""⟩

def pauseEnds : Event :=
  ⟨taskId, .running, index, total, "Challenge resolved; resuming", ""⟩

/-- What is told of pauses that were resumed. -/
def toldOfPauses (resumed : Nat) : List Event :=
  (List.replicate resumed [pauseBegins taskId total index, pauseEnds taskId total index]).flatten

/-- What is told of the steps from `index` on that a run began, each with the number
of its pauses. -/
def toldOfSteps : Nat → List (Step × Nat) → List Event
  | _, [] => []
  | index, (step, resumed) :: rest =>
    stepBegins taskId total index step :: toldOfPauses taskId total index resumed ++
      toldOfSteps (index + 1) rest

/-- What is told of a run when it has ended. -/
def closing (failure : Option Failure) : Event :=
  match failure with
  | none => ⟨taskId, .completed, total, total, "Workflow completed", ""⟩
  | some f => ⟨taskId, .failed, f.stepIndex.getD 0, total, f.message, ""⟩

end

/-- How far a run came: the steps it began, each with the number of its pauses that
were resumed, and whether the last step was given up in one more pause. -/
structure Course where
  begun : List (Step × Nat)
  stuck : Bool
deriving DecidableEq

/-- What is told of a course before its end. -/
def Course.told (c : Course) (taskId : String) (total : Nat) : List Event :=
  toldOfSteps taskId total 0 c.begun ++
    if c.stuck then [pauseBegins taskId total (c.begun.length - 1)] else []

/-- The course belongs to a run through `steps` with this failure, if any: the steps
are begun in order, all of them if there is no failure; a failure of no step comes
before the first one, and a failure at a step before the step was begun or in it. -/
structure Course.Fits (c : Course) (steps : List Step) (failure : Option Failure) : Prop where
  begun : c.begun.map Prod.fst <+: steps
  completed : failure = none → c.begun.length = steps.length ∧ c.stuck = false
  failed : ∀ f, failure = some f → f.stepIndex = none ∧ c = ⟨[], false⟩ ∨
    ∃ index : Nat, f.stepIndex = some ↑index ∧ index < steps.length ∧
      (c.begun.length = index ∧ c.stuck = false ∨ c.begun.length = index + 1)

variable {taskId : String} {total index : Nat}

@[simp] theorem toldOfPauses_zero : toldOfPauses taskId total index 0 = [] := rfl

theorem toldOfPauses_add (m n : Nat) : toldOfPauses taskId total index (m + n) =
    toldOfPauses taskId total index m ++ toldOfPauses taskId total index n := by
  unfold toldOfPauses
  rw [← List.replicate_append_replicate, List.flatten_append]

theorem toldOfPauses_one : toldOfPauses taskId total index 1 =
    [pauseBegins taskId total index, pauseEnds taskId total index] := rfl

theorem toldOfSteps_append (l l' : List (Step × Nat)) :
    toldOfSteps taskId total index (l ++ l') =
      toldOfSteps taskId total index l ++ toldOfSteps taskId total (index + l.length) l' := by
  induction l generalizing index with
  | nil => rfl
  | cons entry rest ih =>
    obtain ⟨step, resumed⟩ := entry
    simp only [List.cons_append, toldOfSteps, ih, List.length_cons, List.append_assoc]
    rw [Nat.add_right_comm, ← Nat.add_assoc]

/-- What is told of a course with one more step. -/
theorem Course.told_append (passed : List (Step × Nat)) (step : Step) (resumed : Nat)
    (stuck : Bool) : Course.told ⟨passed ++ [(step, resumed)], stuck⟩ taskId total =
      toldOfSteps taskId total 0 passed ++ [stepBegins taskId total passed.length step] ++
        toldOfPauses taskId total passed.length resumed ++
        if stuck then [pauseBegins taskId total passed.length] else [] := by
  unfold Course.told
  rw [toldOfSteps_append]
  simp [toldOfSteps]

/-- No step is begun after the last one passed. -/
theorem Course.fits_before {passed : List (Step × Nat)} {steps : List Step} {f : Failure}
    (hbegun : passed.map Prod.fst <+: steps) (hlt : passed.length < steps.length)
    (hindex : f.stepIndex = some ↑passed.length) :
    (⟨passed, false⟩ : Course).Fits steps (some f) where
  begun := hbegun
  completed hnone := by cases hnone
  failed f' hf := by
    cases hf
    exact .inr ⟨passed.length, hindex, hlt, .inl ⟨rfl, rfl⟩⟩

/-- The run fails in the step after the last one passed. -/
theorem Course.fits_during {passed : List (Step × Nat)} {step : Step} {rest : List Step}
    {resumed : Nat} {f : Failure} (hindex : f.stepIndex = some ↑passed.length) (stuck : Bool) :
    (⟨passed ++ [(step, resumed)], stuck⟩ : Course).Fits
      (passed.map Prod.fst ++ step :: rest) (some f) where
  begun := ⟨rest, by simp⟩
  completed hnone := by cases hnone
  failed f' hf := by
    cases hf
    refine .inr ⟨passed.length, hindex, ?_, .inr ?_⟩
    · simp
    · simp

end Runner
end Pageflow

/-! ## The turns of a run

What a run finds of its own pause and of what was told of its task whenever its turn comes: requests
to resume the task may end the pause meanwhile, and nothing else that happens has to do with the
task. -/
namespace Pageflow.Runner
open Browser Pause Progress

/-- What is to be seen of a task: the events at the sink that watches it, without
their times, and its pauses. -/
structure Sees (k : SinkId) (taskId : String) (s : State) (told : List Event)
    (handles : List Handle) : Prop where
  watches : s.bus.Watches k taskId
  told : (s.bus.trace k taskId).map Event.undated = told
  handles : s.board.handles.filter (·.taskId = taskId) = handles

/-- What happens beside a task: neither its events nor its pause, nor a signal once
given, are touched. -/
structure Beside (k : SinkId) (taskId : String) (s t : State) : Prop where
  watches : s.bus.Watches k taskId → t.bus.Watches k taskId
  trace : t.bus.trace k taskId = s.bus.trace k taskId
  handles : t.board.handles.filter (·.taskId = taskId) =
    s.board.handles.filter (·.taskId = taskId)
  waiting : ∀ h ∈ s.board.handles, h.taskId = taskId →
    t.board.signal h.signal = s.board.signal h.signal
  given : ∀ n, s.board.signal n = .given → t.board.signal n = .given

/-- What is told when a pause is resumed. -/
def resumption (h : Handle) : Event :=
  ⟨h.taskId, .running, h.stepIndex, h.totalSteps, "Challenge resolved; resuming", ""⟩

/-- The pause of the task is resumed, and this is told. -/
structure Resumes (k : SinkId) (taskId : String) (s t : State) (h : Handle) : Prop where
  paused : s.board.handle? taskId = some h
  waiting : s.board.signal h.signal = .waiting
  given : t.board.signal h.signal = .given
  sees : ∀ told, Sees k taskId s told [h] → Sees k taskId t (told ++ [resumption h]) []
  watches : s.bus.Watches k taskId → t.bus.Watches k taskId

/-- How far a run has come in its telling, or a request to resume it. -/
inductive Phase where
  /-- The run is not in a pause. -/
  | going (told : List Event)
  | paused (told : List Event) (h : Handle)
  /-- The run is about to give a pause up. -/
  | leaving (told : List Event) (h : Handle)
  /-- The request has not been accepted. -/
  | looking
  | accepted

/-- On what a run, or a request, relies when its turn comes. -/
def Phase.At (k : SinkId) (taskId : String) : Phase → State → Prop
  | .going told, s => Sees k taskId s told []
  | .paused told h, s =>
    Sees k taskId s told [h] ∧ s.board.signal h.signal = .waiting ∨
      Sees k taskId s (told ++ [resumption h]) [] ∧ s.board.signal h.signal = .given
  | .leaving told h, s => Sees k taskId s told [h] ∧ s.board.signal h.signal = .withdrawn
  | .looking, s | .accepted, s => s.bus.Watches k taskId

variable {k : SinkId} {taskId : String} {s t u : State} {told : List Event}
  {handles : List Handle} {h : Handle} {φ : Phase}

theorem Beside.refl : Beside k taskId s s := ⟨id, rfl, rfl, fun _ _ _ => rfl, fun _ => id⟩

theorem Beside.mem_iff (hbeside : Beside k taskId s t) (htask : h.taskId = taskId) :
    h ∈ t.board.handles ↔ h ∈ s.board.handles := by
  have hiff := congrArg (h ∈ ·) hbeside.handles
  simpa [htask] using hiff

theorem Beside.handle? (hbeside : Beside k taskId s t) :
    t.board.handle? taskId = s.board.handle? taskId := by
  unfold Board.handle?
  rw [← List.head?_filter, hbeside.handles, List.head?_filter]

theorem Beside.trans (h : Beside k taskId s t) (h' : Beside k taskId t u) :
    Beside k taskId s u where
  watches := h'.watches ∘ h.watches
  trace := h'.trace.trans h.trace
  handles := h'.handles.trans h.handles
  waiting handle hmem htask :=
    (h'.waiting handle ((h.mem_iff htask).mpr hmem) htask).trans (h.waiting handle hmem htask)
  given n := h'.given n ∘ h.given n

theorem Beside.of_eq (hboard : t.board = s.board) (hbus : t.bus = s.bus) :
    Beside k taskId s t := by
  refine ⟨fun hwatches => ?_, ?_, ?_, fun handle _ _ => ?_, fun n hgiven => ?_⟩
  · rw [hbus]
    exact hwatches
  · rw [hbus]
  · rw [hboard]
  · rw [hboard]
  · rw [hboard]
    exact hgiven

theorem Sees.beside (hsees : Sees k taskId s told handles) (hbeside : Beside k taskId s t) :
    Sees k taskId t told handles where
  watches := hbeside.watches hsees.watches
  told := by rw [hbeside.trace, hsees.told]
  handles := by rw [hbeside.handles, hsees.handles]

theorem Sees.takes {e : Event} (hsees : Sees k taskId s told handles) (htakes : Takes k [e] s t)
    (he : e.taskId = taskId) : Sees k taskId t (told ++ [e.undated]) handles where
  watches := htakes.watches hsees.watches
  told := by
    rw [htakes.trace hsees.watches he, List.map_append, hsees.told]
    rfl
  handles := by rw [htakes.board, hsees.handles]

theorem Sees.mem (hsees : Sees k taskId s told [h]) : h ∈ s.board.handles ∧ h.taskId = taskId := by
  have hmem : h ∈ s.board.handles.filter (·.taskId = taskId) := by
    rw [hsees.handles]
    exact List.mem_singleton_self h
  simpa using hmem

theorem Sees.handle? (hsees : Sees k taskId s told handles) :
    s.board.handle? taskId = handles.head? := by
  rw [← hsees.handles, List.head?_filter]
  rfl

theorem Sees.begin {page : Option PageRef} {stepIndex totalSteps : Int} {board : Board}
    (hsees : Sees k taskId s told [])
    (hbegin : s.board.begin? taskId page stepIndex totalSteps = some (h, board)) :
    Sees k taskId { s with board } told [h] := by
  obtain ⟨-, htask, -, hhandles, -⟩ := Board.begin?_eq_some hbegin
  refine ⟨hsees.watches, hsees.told, ?_⟩
  rw [hhandles, List.filter_append, hsees.handles]
  simp [htask]

theorem Sees.remove (hsees : Sees k taskId s told handles) (h : Handle) :
    Sees k taskId { s with board := s.board.remove h } told
      (handles.filter (·.signal ≠ h.signal)) where
  watches := hsees.watches
  told := hsees.told
  handles := by
    rw [← hsees.handles]
    exact List.filter_comm ..

/-- There is no pause of the task to cancel. -/
theorem Sees.cancel (hsees : Sees k taskId s told []) :
    Sees k taskId { s with board := (s.board.cancel taskId).2 } told [] := by
  have hnone : s.board.handle? taskId = none := hsees.handle?
  unfold Board.cancel
  rw [hnone]
  exact hsees

theorem Phase.At.watches (hat : φ.At k taskId s) : s.bus.Watches k taskId := by
  cases φ with
  | going => exact Sees.watches hat
  | paused => exact hat.elim (·.1.watches) (·.1.watches)
  | leaving => exact hat.1.watches
  | looking | accepted => exact hat

theorem Phase.At.of_given (hat : (Phase.paused told h).At k taskId s)
    (hgiven : s.board.signal h.signal = .given) :
    Sees k taskId s (told ++ [resumption h]) [] := by
  rcases hat with ⟨-, hwaiting⟩ | ⟨hsees, -⟩
  · rw [hgiven] at hwaiting
    cases hwaiting
  · exact hsees

theorem Phase.At.of_waiting (hat : (Phase.paused told h).At k taskId s)
    (hwaiting : s.board.signal h.signal = .waiting) : Sees k taskId s told [h] := by
  rcases hat with ⟨hsees, -⟩ | ⟨-, hgiven⟩
  · exact hsees
  · rw [hwaiting] at hgiven
    cases hgiven

/-- Nobody but the run withdraws the signal it waits for. -/
theorem Phase.At.not_withdrawn (hat : (Phase.paused told h).At k taskId s) :
    s.board.signal h.signal ≠ .withdrawn := by
  intro hwithdrawn
  rcases hat with ⟨-, hwaiting⟩ | ⟨-, hgiven⟩
  · rw [hwithdrawn] at hwaiting
    cases hwaiting
  · rw [hwithdrawn] at hgiven
    cases hgiven

/-- A run does not notice what happens beside its task. -/
theorem Phase.At.beside (hat : φ.At k taskId s) (hbeside : Beside k taskId s t) :
    φ.At k taskId t := by
  cases φ with
  | going => exact Sees.beside hat hbeside
  | paused told h =>
    refine hat.imp (fun ⟨hsees, hwaiting⟩ => ?_) fun ⟨hsees, hgiven⟩ =>
      ⟨hsees.beside hbeside, hbeside.given _ hgiven⟩
    obtain ⟨hmem, htask⟩ := hsees.mem
    exact ⟨hsees.beside hbeside, (hbeside.waiting h hmem htask).trans hwaiting⟩
  | leaving told h =>
    obtain ⟨hsees, hwithdrawn⟩ := hat
    obtain ⟨hmem, htask⟩ := hsees.mem
    exact ⟨hsees.beside hbeside, (hbeside.waiting h hmem htask).trans hwithdrawn⟩
  | looking | accepted => exact hbeside.watches hat

/-- What a run finds when its pause was resumed meanwhile. -/
theorem Phase.At.resumes (hat : φ.At k taskId s) (hresumes : Resumes k taskId s t h) :
    φ.At k taskId t := by
  have hpaused := hresumes.paused
  cases φ with
  | going =>
    rw [Sees.handle? hat] at hpaused
    cases hpaused
  | paused told h' =>
    rcases hat with ⟨hsees, hwaiting⟩ | ⟨hsees, hgiven⟩
    · rw [hsees.handle?] at hpaused
      obtain rfl : h' = h := Option.some.inj hpaused
      exact .inr ⟨hresumes.sees told hsees, hresumes.given⟩
    · rw [hsees.handle?] at hpaused
      cases hpaused
  | leaving told h' =>
    obtain ⟨hsees, hwithdrawn⟩ := hat
    rw [hsees.handle?] at hpaused
    obtain rfl : h' = h := Option.some.inj hpaused
    rw [hresumes.waiting] at hwithdrawn
    cases hwithdrawn
  | looking | accepted => exact hresumes.watches hat

end Pageflow.Runner
