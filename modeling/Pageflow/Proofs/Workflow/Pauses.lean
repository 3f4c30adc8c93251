import Pageflow.Proofs.Workflow.Interference

/-! A part of a step tells of nothing but pauses: of any number that were resumed and,
if it fails, perhaps of one more that it was given up in. -/
namespace Pageflow.Runner
open Browser Pause Progress

variable {k : SinkId} {taskId : String} {steps : List Step} {index : Nat} {α β : Type}

/-- A run tells of a course that fits its result. -/
def runContract (k : SinkId) (taskId : String) (steps : List Step) :
    Contract State Ask Unit Answer Phase where
  start := .going []
  rely φ x := φ.At k taskId x.2
  rests _ _ := True
  moves _ _ φ y := φ.At k taskId y.2
  ends φ result := ∃ (course : Course) (e : Execution), result = .ok (.inl e) ∧
    course.Fits steps e.failure ∧
    φ = .going (course.told taskId steps.length ++ [closing taskId steps.length e.failure])

section

variable {φ : Phase} {before now : Unit × State} {told : List Event}

theorem keeps_going {p : Activity α} {fine : Result α → Prop} {post : Ending State Unit α Phase}
    (hp : p.Calm (climate k taskId) (Aside k taskId) fine)
    (hpost : ∀ result φ before now, fine result → Sees k taskId now.2 told [] →
      post result φ before now) (hsees : Sees k taskId now.2 told []) :
    p.Keeps (climate k taskId) (runContract k taskId steps) post φ before now := by
  have hmoves : (runContract k taskId steps).moves φ before (.going told) now := hsees
  exact hp.keeps (fun _ => .refl) (fun _ _ _ _ => Sees.beside) (fun _ => trivial)
    (fun _ => id) hpost hmoves

theorem keeps_bind_ask {q : Ask} {f : Ask.Reply q → Activity α} {post : Ending State Unit α Phase}
    (hq : q.suspends = false) (hf : ∀ reply, (f reply).Keeps (climate k taskId)
      (runContract k taskId steps) post φ before now) :
    ((Program.ask q .done).bind f).Keeps (climate k taskId) (runContract k taskId steps) post φ
      before now :=
  ⟨fun _ reply _ _ => hf reply, fun hlater => absurd hq hlater⟩

/-- A question at which others may have their turn. -/
theorem keeps_waiting {q : Ask} {next : Ask.Reply q → Activity α} {post : Ending State Unit α Phase}
    (hq : q.suspends = true) (stop : Phase) (hat : stop.At k taskId now.2)
    (hnext : ∀ later reply, stop.At k taskId later.2 → q.Spares reply →
      (next reply).Keeps (climate k taskId) (runContract k taskId steps) post stop later later) :
    (Program.ask q next).Keeps (climate k taskId) (runContract k taskId steps) post φ before
      now := by
  refine ⟨fun honce => ?_, fun _ => ⟨stop, hat, trivial, ?_⟩⟩
  · rw [show q.suspends = false from honce] at hq
    cases hq
  · exact fun later reply _ hat hanswer => hnext later reply hat hanswer.1

/-- Telling takes no turn, and the sink that watches the task has the event. -/
theorem keeps_announce {post : Ending State Unit Unit Phase} {handles : List Handle}
    (status : Status) (stepIndex totalSteps : Int) (message : String)
    (hpost : ∀ y, Sees k taskId y.2
      (told ++ [⟨taskId, status, stepIndex, totalSteps, message, ""⟩]) handles →
      y.2.board = now.2.board → post (.ok ()) φ before y)
    (hsees : Sees k taskId now.2 told handles) :
    (Progress.announce busChannel taskId status stepIndex totalSteps message).Keeps
      (climate k taskId) (runContract k taskId steps) post φ before now := by
  refine Program.AtOnce.keeps ?_
  refine (atOnce_announce spares_climate tellsAtOnce_climate hsees.watches.once _ _ _ _).mono ?_
  rintro _ y ⟨rfl, time, htakes⟩
  exact hpost y (hsees.takes htakes rfl) htakes.board

end

/-- How a part of step `index` ends that began when `told` had been told. -/
def Ends (k : SinkId) (taskId : String) (steps : List Step) (index : Nat) (fine : α → Prop)
    (told : List Event) : Ending State Unit α Phase :=
  fun result _ _ now => match result with
    | .ok value => fine value ∧ ∃ resumed,
      Sees k taskId now.2 (told ++ toldOfPauses taskId steps.length index resumed) []
    | .error fault => fault.isCancelled = false ∧ ∃ resumed, ∃ stuck : Bool,
      Sees k taskId now.2 (told ++ toldOfPauses taskId steps.length index resumed ++
        if stuck then [pauseBegins taskId steps.length index] else []) []

/-- A part of step `index` of a run, which ends well only with a value that is `fine`. -/
def PartOf (k : SinkId) (taskId : String) (steps : List Step) (index : Nat) (fine : α → Prop)
    (p : Activity α) : Prop :=
  ∀ told φ before now, Sees k taskId now.2 told [] → p.Keeps (climate k taskId)
    (runContract k taskId steps) (Ends k taskId steps index fine told) φ before now

section

variable {fine : α → Prop} {fine' : β → Prop}

theorem partOf_done {value : α} (h : fine value) :
    PartOf k taskId steps index fine (.done value) := by
  intro told φ before now hsees
  refine ⟨h, 0, ?_⟩
  rw [toldOfPauses_zero, List.append_nil]
  exact hsees

theorem partOf_fail {fault : Fault} (hfault : fault.isCancelled = false) :
    PartOf k taskId steps index fine (.fail fault) := by
  intro told φ before now hsees
  refine ⟨hfault, 0, false, ?_⟩
  simpa using hsees

theorem partOf_kept {p : Activity α} (hp : (aside k taskId).Kept p) :
    PartOf k taskId steps index (fun _ => True) p := by
  intro told φ before now hsees
  refine keeps_going hp.calm ?_ hsees
  rintro (fault | value) φ before now hspared hsees
  · refine ⟨hspared.not_isCancelled, 0, false, ?_⟩
    simpa using hsees
  · refine ⟨trivial, 0, ?_⟩
    simpa using hsees

theorem Ends.ok_append {told : List Event} {resumed : Nat} {result : Result β} {φ : Phase}
    {before now : Unit × State}
    (h : Ends k taskId steps index fine' (told ++ toldOfPauses taskId steps.length index resumed)
      result φ before now) : Ends k taskId steps index fine' told result φ before now := by
  cases result with
  | ok value =>
    obtain ⟨hfine, more, hsees⟩ := h
    rw [List.append_assoc, ← toldOfPauses_add] at hsees
    exact ⟨hfine, resumed + more, hsees⟩
  | error fault =>
    obtain ⟨hspared, more, stuck, hsees⟩ := h
    rw [List.append_assoc told, ← toldOfPauses_add] at hsees
    exact ⟨hspared, resumed + more, stuck, hsees⟩

theorem partOf_bind {p : Activity α} {f : α → Activity β} (hp : PartOf k taskId steps index fine p)
    (hf : ∀ value, fine value → PartOf k taskId steps index fine' (f value)) :
    PartOf k taskId steps index fine' (p.bind f) := by
  intro told φ before now hsees
  refine Program.keeps_bind.mpr ((hp told φ before now hsees).mono ?_)
  rintro (fault | value) φ before now hend
  · exact hend
  · obtain ⟨hfine, resumed, hsees⟩ := hend
    exact (hf value hfine _ φ before now hsees).mono fun _ _ _ _ => Ends.ok_append

theorem partOf_rescueIf_fail {p : Activity α} {accepts : Fault → Bool} {other : Fault}
    (hp : PartOf k taskId steps index fine p) (hother : other.isCancelled = false) :
    PartOf k taskId steps index fine (p.rescueIf accepts fun _ => .fail other) := by
  intro told φ before now hsees
  refine Program.keeps_rescueIf.mpr ((hp told φ before now hsees).mono ?_)
  rintro (fault | value) φ before now hend
  · dsimp only
    split
    · exact ⟨hother, hend.2⟩
    · exact hend
  · exact hend

/-- A part that looks at the fault of what does not pause. -/
theorem partOf_bind_attempt {p : Activity α} {f : Result α → Activity β}
    (hp : (aside k taskId).Kept p)
    (hf : ∀ result, Uncancelled result → PartOf k taskId steps index fine' (f result)) :
    PartOf k taskId steps index fine' (p.attempt.bind f) := by
  intro told φ before now hsees
  refine Program.keeps_bind.mpr (Program.keeps_attempt.mpr (keeps_going hp.calm ?_ hsees))
  exact fun result φ before now hspared hsees => hf result hspared told φ before now hsees

end

/-! ## Pausing -/

variable {c : Coordinator} {told : List Event} {h : Handle}

/-- A pause that gives itself up stays on the board until it has ended. -/
theorem keeps_withdraw {α : Type} {φ : Phase} {before now : Unit × State} {fault : Fault}
    (hfault : fault.isCancelled = false) (hsees : Sees k taskId now.2 told [h])
    (hwaiting : now.2.board.signal h.signal = .waiting) :
    ((withdraw h.signal).bind fun _ => .fail fault : Activity α).Keeps (climate k taskId)
      (runContract k taskId steps) (fun result _ _ now => ∃ fault, result = .error fault ∧
        fault.isCancelled = false ∧ Sees k taskId now.2 told [h]) φ before now := by
  have hsettled : Phase.At k taskId (.leaving told h)
      { now.2 with board := now.2.board.settle h.signal .withdrawn } :=
    ⟨⟨hsees.watches, hsees.told, hsees.handles⟩, Board.signal_settle_self hwaiting _⟩
  refine keeps_waiting rfl (.leaving told h) hsettled fun later reply hat hreply => ?_
  cases reply with
  | ok => exact ⟨fault, rfl, hfault, hat.1⟩
  | error fault => exact ⟨fault, rfl, Uncancelled.not_isCancelled hreply, hat.1⟩

/-- A pause that was told of waits until it was resumed, or gives itself up. -/
theorem keeps_awaitSignal {φ : Phase} {before now : Unit × State}
    (hresumption : resumption h = pauseEnds taskId steps.length index)
    (hsees : Sees k taskId now.2 (told ++ [pauseBegins taskId steps.length index]) [h])
    (hwaiting : now.2.board.signal h.signal = .waiting) :
    ((c.awaitSignal h).ensure (changeBoard fun b => b.remove h)).Keeps (climate k taskId)
      (runContract k taskId steps) (Ends k taskId steps index (fun _ => True) told) φ before
      now := by
  have hgivenUp : ∀ (fault : Fault) (φ : Phase) (before now : Unit × State),
      fault.isCancelled = false →
      Sees k taskId now.2 (told ++ [pauseBegins taskId steps.length index]) [h] →
      Ends k taskId steps index (fun _ : Unit => True) told (.error fault) φ before
        (now.1, { now.2 with board := now.2.board.remove h }) := by
    intro fault φ before now hspared hsees
    refine ⟨hspared, 0, true, ?_⟩
    simpa using hsees.remove h
  rw [Program.keeps_ensure]
  refine keeps_waiting rfl (.paused _ h) (.inl ⟨hsees, hwaiting⟩) fun later reply hat hreply => ?_
  unfold Program.state
  simp only [Program.bind_eq_bind, Program.bind, Program.Keeps]
  split
  · rename_i hgiven
    refine ⟨trivial, 1, ?_⟩
    rw [toldOfPauses_one, ← hresumption]
    simpa using (hat.of_given hgiven).remove h
  · exact absurd ‹_› hat.not_withdrawn
  · rename_i hwaiting
    refine (keeps_withdraw rfl (hat.of_waiting hwaiting) hwaiting).mono ?_
    rintro _ φ before now ⟨fault, rfl, hfault, hsees⟩
    exact hgivenUp fault φ before now hfault hsees
  · rename_i fault hwaiting
    refine (keeps_withdraw (Uncancelled.not_isCancelled hreply) (hat.of_waiting hwaiting)
      hwaiting).mono ?_
    rintro _ φ before now ⟨fault, rfl, hfault, hsees⟩
    exact hgivenUp fault φ before now hfault hsees

theorem partOf_pause (hc : c.channel = busChannel) (page : Option PageRef) :
    PartOf k taskId steps index (fun _ => True) (c.pause taskId page index steps.length) := by
  intro told φ before now hsees
  unfold Coordinator.pause Program.state
  simp only [Program.bind_eq_bind, Program.bind, Program.Keeps]
  split
  · refine ⟨rfl, 0, false, ?_⟩
    simpa using hsees
  · rename_i h board hbegin
    have hpaused := hsees.begin hbegin
    have hwaiting : board.signal h.signal = .waiting := by
      obtain ⟨-, -, hsignal, -, hsignals⟩ := Board.begin?_eq_some hbegin
      rw [Board.signal_append hsignals, if_pos hsignal]
    have hresumption : resumption h = pauseEnds taskId steps.length index := by
      rw [Board.handle_of_begin? hbegin]
      rfl
    refine Program.keeps_modify_bind.mpr (Program.keeps_bind.mpr ?_)
    rw [hc]
    refine keeps_announce _ _ _ _ (fun y hsees hboard => ?_) hpaused
    refine keeps_awaitSignal hresumption hsees ?_
    rw [hboard]
    exact hwaiting

end Pageflow.Runner
