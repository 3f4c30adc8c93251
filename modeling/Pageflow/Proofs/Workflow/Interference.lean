import Pageflow.Proofs.Challenge.Inspect
import Pageflow.Proofs.Network.Idle
import Pageflow.Proofs.Workflow.Phases

/-! One run among requests to resume it. Nothing is cancelled from outside, sinks and
clocks answer at once, and what else happens is beside the task. -/
namespace Pageflow

/-- Whether others may have their turn before a question is answered. -/
def Ask.suspends : Ask → Bool
  | .sleep _ | .pass | .await _ _ | .page _ _ | .element _ _ | .browser _ | .upload _ _
  | .receive _ _ | .readLine => true
  | .elapsed | .wall | .now | .freshId | .makeDirectory _ | .files _ | .post _ _ | .send _ _
  | .print _ | .start _ | .stop _ => false

/-- An answer of a page that tells of its requests when it is asked to. -/
def Ask.Listens : (q : Ask) → Ask.Reply q → Prop
  | .page _ (.listen _), r => r = .ok ()
  | _, _ => True

theorem Ask.listens_refused (q : Ask) (hq : ∀ page event, q ≠ .page page (.listen event)) :
    q.Listens q.refused := by
  unfold Ask.Listens
  split
  · exact absurd rfl (hq _ _)
  · trivial

namespace Runner
open Browser Pause Progress

/-- Any answers but cancellations, and anything beside the task. -/
def climate (k : SinkId) (taskId : String) : Climate State Ask Ask.Reply Unit where
  admits _ _ := True
  atOnce q := q.suspends = false
  answers q _ r _ := q.Spares r ∧ q.Listens r
  happens x y := Beside k taskId x.2 y.2

def Aside (k : SinkId) (taskId : String) (x y : Unit × State) : Prop := Beside k taskId x.2 y.2

variable {k : SinkId} {taskId : String}

theorem tolerates_aside : (climate k taskId).Tolerates (Aside k taskId) where
  refl _ := .refl
  trans _ _ _ := Beside.trans
  answers _ _ _ _ _ := .refl

theorem spares_climate : (climate k taskId).Spares := fun _ _ _ _ hanswer => hanswer.1

/-- What is kept up beside a task. -/
abbrev aside (k : SinkId) (taskId : String) : Upkeep Unit Unit Unit :=
  .inside (tolerates_aside : (climate k taskId).Tolerates (Aside k taskId)) spares_climate

theorem tells_climate : Network.Tells (climate k taskId) := fun _ _ _ _ _ hanswer => hanswer.2

theorem tellsAtOnce_climate : TellsAtOnce (climate k taskId) :=
  ⟨rfl, fun _ _ => rfl, fun _ _ => rfl, fun _ => rfl⟩

theorem following_aside : Network.Following (Aside k taskId) := fun _ _ => .of_eq rfl rfl

/-- The run is one call, requests to resume it are the others. -/
abbrev Answer : Type := Execution ⊕ Option Refusal

/-- Call 0 is the run, every other one asks some coordinator to resume it. -/
def calls (r : Runner) (w : Workflow) (context : TaskContext) (c : Nat → Coordinator) :
    Nat → Activity Answer
  | 0 => Sum.inl <$> r.execute w context
  | i + 1 => Sum.inr <$> (c i).resume context.taskId

/-- A request to resume the task happens beside it until it is accepted. -/
def resumeContract (k : SinkId) (taskId : String) : Contract State Ask Unit Answer Phase where
  start := .looking
  rely _ x := x.2.bus.Watches k taskId
  rests _ _ := True
  moves _ x φ y := x.2.bus.Watches k taskId ∧ match φ with
    | .accepted => ∃ h, Resumes k taskId x.2 y.2 h
    | _ => Beside k taskId x.2 y.2
  ends _ _ := True

theorem resumes_of_accept {s t u : State} {h : Handle} {board : Board} {time : String}
    (hbeside : Beside k taskId s t) (htask : h.taskId = taskId)
    (haccept : t.board.accept? h = some board)
    (htakes : Takes k [⟨taskId, .running, h.stepIndex, h.totalSteps,
      "Challenge resolved; resuming", time⟩] { t with board := board } u) :
    Resumes k taskId s u h := by
  subst htask
  have hfound := (Board.resumable?_eq_some_iff.mp (Board.resumable?_of_accept? haccept)).1
  obtain ⟨hmem, hwaiting, rfl⟩ := Board.accept?_eq_some haccept
  constructor
  · rw [← hbeside.handle?]
    exact hfound
  · rw [← hbeside.waiting h ((hbeside.mem_iff rfl).mp hmem) rfl]
    exact hwaiting
  · rw [htakes.board]
    exact Board.signal_settle_self hwaiting _
  · intro told hsees
    have hsees' := hsees.beside hbeside
    refine ⟨htakes.watches hsees'.watches, ?_, ?_⟩
    · rw [htakes.trace hsees'.watches rfl, List.map_append, hsees'.told]
      rfl
    · rw [htakes.board]
      exact Board.filter_remove hsees'.handles
  · exact fun hwatches => htakes.watches (hbeside.watches hwatches)

theorem keeps_looking {α : Type} {p : Activity α} {fine : Result α → Prop}
    {post : Ending State Unit α Phase} {φ : Phase} {before now : Unit × State}
    (hp : p.Calm (climate k taskId) (Aside k taskId) fine)
    (hpost : ∀ result φ before now, fine result → before.2.bus.Watches k taskId →
      Beside k taskId before.2 now.2 → post result φ before now)
    (hwatches : before.2.bus.Watches k taskId) (hbeside : Beside k taskId before.2 now.2) :
    p.Keeps (climate k taskId) (resumeContract k taskId) post φ before now := by
  have hmoves : (resumeContract k taskId).moves φ before .looking now := ⟨hwatches, hbeside⟩
  refine hp.keeps (fun _ => .refl) ?_ (fun _ => trivial) ?_ ?_ hmoves
  · exact fun _ _ _ _ hmoves hsame => ⟨hmoves.1, hmoves.2.trans hsame⟩
  · exact fun _ hat => ⟨hat, .refl⟩
  · exact fun _ _ _ _ hfine hmoves => hpost _ _ _ _ hfine hmoves.1 hmoves.2

theorem keeps_resume {c : Coordinator} (hc : c.channel = busChannel) (x : Unit × State)
    (hwatches : x.2.bus.Watches k taskId) :
    (Sum.inr <$> c.resume taskId : Activity Answer).Keeps (climate k taskId)
      (resumeContract k taskId) (resumeContract k taskId).closes .looking x x := by
  have hrefuse : ∀ (result : Result Answer) (φ : Phase) (before now : Unit × State),
      before.2.bus.Watches k taskId → Beside k taskId before.2 now.2 →
      (resumeContract k taskId).closes result φ before now :=
    fun _ _ _ _ hwatches hbeside => ⟨.looking, ⟨hwatches, hbeside⟩, trivial⟩
  refine Program.keeps_bind.mpr ?_
  unfold Coordinator.resume Program.state
  simp only [Program.bind_eq_bind, Program.bind, Program.Keeps]
  split
  · exact hrefuse _ _ _ _ hwatches .refl
  · rename_i h hcheck
    have htask := (Board.mem_of_handle? (Board.resumable?_eq_some_iff.mp hcheck).1).2
    refine Program.keeps_bind.mpr ?_
    refine keeps_looking (c.detector.kept_isActive h.page : (aside k taskId).Kept _).calm ?_
      hwatches .refl
    rintro (fault | active) φ before now - hwatches hbeside
    · exact hrefuse _ _ _ _ hwatches hbeside
    cases active with
    | true => exact hrefuse _ _ _ _ hwatches hbeside
    | false =>
      simp only [Bool.false_eq_true, ↓reduceIte, Program.Keeps]
      split
      · exact hrefuse _ _ _ _ hwatches hbeside
      · rename_i board haccept
        refine Program.keeps_modify_bind.mpr (Program.keeps_bind.mpr ?_)
        rw [hc]
        refine Program.AtOnce.keeps ?_
        refine (atOnce_announce (k := k) spares_climate tellsAtOnce_climate ?_ _ _ _ _).mono ?_
        · exact (hbeside.watches hwatches).once
        rintro _ y ⟨rfl, time, htakes⟩
        exact ⟨.accepted, ⟨hwatches, h, resumes_of_accept hbeside htask haccept htakes⟩, trivial⟩

end Runner
end Pageflow
