import Pageflow.Pause.Coordinator
import Pageflow.Proofs.Challenge.Inspect
import Pageflow.Proofs.Pause.Board
import Pageflow.Proofs.Progress.Announce

/-! What one call to pause, to resume or to cancel does to the board, turn by
turn. Any other call may have its turn at every question; nothing is cancelled
from outside, and nobody else touches the board. -/
namespace Pageflow.Pause
open Browser

inductive Request where
  | pause (taskId : String) (page : Option PageRef) (stepIndex totalSteps : Int)
  | resume (taskId : String)
  | cancel (taskId : String)

/-- What comes of a request: the pause is over, a resume was refused or not, a
pause was there to cancel or not. -/
inductive Answer where
  | paused
  | resumed (refusal : Option Refusal)
  | cancelled (was : Bool)

namespace Request

def taskId : Request → String
  | .pause taskId _ _ _ | .resume taskId | .cancel taskId => taskId

def run (c : Coordinator) : Request → Activity Answer
  | .pause taskId page stepIndex totalSteps => do
    c.pause taskId page stepIndex totalSteps
    return .paused
  | .resume taskId => return .resumed (← c.resume taskId)
  | .cancel taskId => return .cancelled (← Pause.cancel taskId)

end Request

/-- Any answers at any time, the timeouts of a pause among them. -/
def climate : Climate State Ask Ask.Reply Unit where
  admits _ _ := True
  atOnce _ := False
  answers q _ r _ := q.Spares r
  happens x y := y.2.board = x.2.board

theorem climate_refused (q : Ask) (x : Unit × State) : climate.answers q x q.refused () :=
  q.spares_refused

inductive Phase where
  | fresh
  /-- The pause has begun, or waits for its signal. -/
  | on (h : Handle)
  /-- The pause has withdrawn its signal and is about to end. -/
  | leaving (h : Handle)
  | left (h : Handle) (resumed : Bool)
  /-- The page of a pause is looked at. -/
  | checking (h : Handle)
  | accepted (h : Handle)
  /-- Refused, or failed, without an effect. -/
  | refused
  | cancelled

/-- With what a request ends in a phase. -/
def Phase.Ends : Phase → Result Answer → Prop
  | .left _ true, result => result = .ok .paused
  | .left _ false, result => ∃ fault, result = .error fault
  | .accepted _, result => result = .ok (.resumed none)
  | .refused, result => result ≠ .ok .paused ∧ result ≠ .ok (.resumed none)
  | .cancelled, result => ∃ was, result = .ok (.cancelled was)
  | _, _ => False

theorem Phase.refused_ends_error (fault : Fault) : Phase.refused.Ends (.error fault) := by
  simp [Phase.Ends]

theorem Phase.refused_ends_resumed (refusal : Refusal) :
    Phase.refused.Ends (.ok (.resumed (some refusal))) := by
  simp [Phase.Ends]

/-- What a turn of a request does to the board. -/
inductive Turns : Request → Phase → Board → Phase → Board → Prop where
  | begin {taskId : String} {page : Option PageRef} {stepIndex totalSteps : Int} {b b' : Board}
    {h : Handle} (hbegin : b.begin? taskId page stepIndex totalSteps = some (h, b')) :
    Turns (.pause taskId page stepIndex totalSteps) .fresh b (.on h) b'
  | wait {r : Request} (h : Handle) (b : Board) : Turns r (.on h) b (.on h) b
  | wake {r : Request} {h : Handle} {b : Board} (hgiven : b.signal h.signal = .given) :
    Turns r (.on h) b (.left h true) (b.remove h)
  | giveUp {r : Request} {h : Handle} {b : Board} (hwithdrawn : b.signal h.signal = .withdrawn) :
    Turns r (.on h) b (.left h false) (b.remove h)
  | withdraw {r : Request} {h : Handle} {b : Board} (hwaiting : b.signal h.signal = .waiting) :
    Turns r (.on h) b (.leaving h) (b.settle h.signal .withdrawn)
  | leave {r : Request} (h : Handle) (b : Board) :
    Turns r (.leaving h) b (.left h false) (b.remove h)
  | check {taskId : String} {h : Handle} {b : Board} (hcheck : b.resumable? taskId = some h) :
    Turns (.resume taskId) .fresh b (.checking h) b
  | checkOn {r : Request} (h : Handle) (b : Board) : Turns r (.checking h) b (.checking h) b
  | acceptUnasked {taskId : String} {h : Handle} {b b' : Board}
    (hcheck : b.resumable? taskId = some h) (haccept : b.accept? h = some b') :
    Turns (.resume taskId) .fresh b (.accepted h) b'
  | accept {r : Request} {h : Handle} {b b' : Board} (haccept : b.accept? h = some b') :
    Turns r (.checking h) b (.accepted h) b'
  | tell {r : Request} (h : Handle) (b : Board) : Turns r (.accepted h) b (.accepted h) b
  | turnAway (r : Request) (b : Board) : Turns r .fresh b .refused b
  | refuse {r : Request} (h : Handle) (b : Board) : Turns r (.checking h) b .refused b
  | cancel {taskId : String} {b b' : Board} {was : Bool} (hcancel : b.cancel taskId = (was, b')) :
    Turns (.cancel taskId) .fresh b .cancelled b'

theorem Turns.refused_of_checking {r : Request} {φ : Phase} {b b' : Board} {h : Handle}
    (hturns : Turns r φ b (.checking h) b') : Turns r φ b .refused b' := by
  cases hturns with
  | check => exact .turnAway _ _
  | checkOn => exact .refuse _ _

theorem Turns.accepted_of_checking {r : Request} {φ : Phase} {b b' b'' : Board} {h : Handle}
    (hturns : Turns r φ b (.checking h) b') (haccept : b'.accept? h = some b'') :
    Turns r φ b (.accepted h) b'' := by
  cases hturns with
  | check hcheck => exact .acceptUnasked hcheck haccept
  | checkOn => exact .accept haccept

def Request.contract (r : Request) : Contract State Ask Unit Answer Phase where
  start := .fresh
  rely _ _ := True
  rests _ _ := True
  moves φ x φ' y := Turns r φ x.2.board φ' y.2.board
  ends := Phase.Ends

def SameBoard (x y : Unit × State) : Prop := y.2.board = x.2.board

theorem tolerates_sameBoard : climate.Tolerates SameBoard where
  refl _ := rfl
  trans _ _ _ hxy hyz := Eq.trans hyz hxy
  answers _ _ _ _ _ := rfl

theorem spares_climate : climate.Spares := fun _ _ _ _ hspares => hspares

/-- A calm part of a request leads from where its turn began to any phase in
which it may stay. -/
theorem keeps_of_calm {α : Type} {r : Request} {p : Activity α} {fine : Result α → Prop}
    {post : Ending State Unit α Phase} {φ : Phase} {before now : Unit × State} (stop : Phase)
    (hp : p.Calm climate SameBoard fine) (hstays : ∀ b, Turns r stop b stop b)
    (hpost : ∀ result φ before now, fine result →
      Turns r φ before.2.board stop now.2.board → post result φ before now)
    (hmoves : Turns r φ before.2.board stop now.2.board) :
    p.Keeps climate r.contract post φ before now := by
  refine hp.keeps (fun _ => rfl) (fun φ before x y hmoves hsame => ?_) (fun _ => trivial)
    (fun x _ => hstays x.2.board) hpost hmoves
  change Turns r φ before.2.board stop y.2.board
  rw [show y.2.board = x.2.board from hsame]
  exact hmoves

namespace Coordinator

/-- The coordinator announces on the event bus or nowhere. -/
def Announces (c : Coordinator) : Prop := c.channel = none ∨ c.channel = Progress.busChannel

variable {c : Coordinator}

theorem calm_announce (hc : c.Announces) (taskId : String) (status : Progress.Status)
    (stepIndex totalSteps : Int) (message : String) :
    (Progress.announce c.channel taskId status stepIndex totalSteps message).Calm climate SameBoard
      (· = .ok ()) :=
  Progress.calm_announce tolerates_sameBoard spares_climate (fun _ _ _ => rfl) hc _ _ _ _ _

/-- Having begun, a pause waits until it finds its signal given or withdrawn, or
withdraws it itself, and takes its handle off the board. -/
theorem keeps_awaitSignal {r : Request} {h : Handle} {φ : Phase} {before now : Unit × State}
    (hmoves : Turns r φ before.2.board (.on h) now.2.board) :
    ((c.awaitSignal h).ensure (changeBoard fun b => b.remove h)).Keeps climate r.contract
      (fun result φ before now => ∃ φ', Turns r φ before.2.board φ' now.2.board ∧
        match result with
        | .ok _ => φ' = .left h true
        | .error _ => φ' = .left h false) φ before now := by
  rw [Program.keeps_ensure]
  refine ⟨False.elim, fun _ => ⟨.on h, hmoves, trivial, fun later reply w _ _ => ?_⟩⟩
  unfold Program.state
  simp only [Program.bind_eq_bind, Program.bind, Program.Keeps]
  split
  · exact ⟨.left h true, .wake ‹_›, rfl⟩
  · exact ⟨.left h false, .giveUp ‹_›, rfl⟩
  · refine ⟨False.elim, fun _ => ⟨.leaving h, .withdraw ‹_›, trivial, fun last passed w _ _ => ?_⟩⟩
    cases passed with
    | ok => exact ⟨.left h false, .leave h last.2.board, rfl⟩
    | error => exact ⟨.left h false, .leave h last.2.board, rfl⟩
  · refine ⟨False.elim, fun _ => ⟨.leaving h, .withdraw ‹_›, trivial, fun last passed w _ _ => ?_⟩⟩
    cases passed with
    | ok => exact ⟨.left h false, .leave h last.2.board, rfl⟩
    | error => exact ⟨.left h false, .leave h last.2.board, rfl⟩

theorem keeps_pause (hc : c.Announces) (taskId : String) (page : Option PageRef)
    (stepIndex totalSteps : Int) (x : Unit × State) :
    ((Request.pause taskId page stepIndex totalSteps).run c).Keeps climate
      (Request.pause taskId page stepIndex totalSteps).contract
      (Request.pause taskId page stepIndex totalSteps).contract.closes .fresh x x := by
  unfold Request.run pause Program.state
  simp only [Program.bind_eq_bind, Program.bind, Program.Keeps]
  refine Program.keeps_bind.mpr ?_
  split
  · exact ⟨.refused, .turnAway _ _, Phase.refused_ends_error _⟩
  · rename_i h board hbegin
    refine Program.keeps_modify_bind.mpr (Program.keeps_bind.mpr ?_)
    refine keeps_of_calm (.on h) (c.calm_announce hc _ _ _ _ _) (.wait h) ?_
      (.begin hbegin)
    rintro _ φ before now rfl hmoves
    refine (keeps_awaitSignal hmoves).mono ?_
    rintro (fault | _) φ before now ⟨_, hturns, rfl⟩
    · exact ⟨_, hturns, fault, rfl⟩
    · exact ⟨_, hturns, rfl⟩

theorem keeps_resume (hc : c.Announces) (taskId : String) (x : Unit × State) :
    ((Request.resume taskId).run c).Keeps climate (Request.resume taskId).contract
      (Request.resume taskId).contract.closes .fresh x x := by
  unfold Request.run resume Program.state
  simp only [Program.bind_eq_bind, Program.bind, Program.Keeps]
  refine Program.keeps_bind.mpr ?_
  split
  · exact ⟨.refused, .turnAway _ _, Phase.refused_ends_resumed _⟩
  · rename_i h hcheck
    refine Program.keeps_bind.mpr ?_
    refine keeps_of_calm (.checking h)
      (c.detector.kept_isActive h.page :
        (Upkeep.inside tolerates_sameBoard spares_climate).Kept _).calm (.checkOn h) ?_
      (.check hcheck)
    rintro (fault | active) φ before now - hmoves
    · exact ⟨.refused, hmoves.refused_of_checking, Phase.refused_ends_error _⟩
    cases active with
    | true => exact ⟨.refused, hmoves.refused_of_checking, Phase.refused_ends_resumed _⟩
    | false =>
      simp only [Bool.false_eq_true, ↓reduceIte, Program.Keeps]
      split
      · exact ⟨.refused, hmoves.refused_of_checking, Phase.refused_ends_resumed _⟩
      · rename_i board haccept
        refine Program.keeps_modify_bind.mpr (Program.keeps_bind.mpr ?_)
        refine keeps_of_calm (.accepted h) (c.calm_announce hc _ _ _ _ _) (.tell h) ?_
          (hmoves.accepted_of_checking haccept)
        rintro _ φ before now rfl hturns
        exact ⟨_, hturns, rfl⟩

theorem keeps_cancel (taskId : String) (x : Unit × State) :
    ((Request.cancel taskId).run c).Keeps climate (Request.cancel taskId).contract
      (Request.cancel taskId).contract.closes .fresh x x :=
  ⟨.cancelled, .cancel rfl, _, rfl⟩

theorem keeps_run (hc : c.Announces) (r : Request) (x : Unit × State) :
    (r.run c).Keeps climate r.contract r.contract.closes .fresh x x := by
  cases r with
  | pause taskId page stepIndex totalSteps => exact keeps_pause hc _ _ _ _ x
  | resume taskId => exact keeps_resume hc taskId x
  | cancel taskId => exact keeps_cancel taskId x

end Coordinator
end Pageflow.Pause
