import Pageflow.Proofs.Activity.Mirrors
import Pageflow.Proofs.Workflow.Walks

/-! Runs on a page that never shows a challenge. Whether anybody looks for challenges makes no
difference to them: they end alike, tell of the same, and ask the same but for the looks. -/
namespace Pageflow

open Browser Program

variable {W : Type}

/-- What a page is asked to list what might be a challenge. -/
def Ask.lists : Ask → Bool
  | .page _ (.candidates _) => true
  | _ => false

/-- What is asked in a look for challenges, from when it begins to when it is over. -/
def Ask.peeks : Ask → Bool
  | .elapsed | .page _ .isClosed | .page _ .url | .page _ (.candidates _) => true
  | _ => false

/-- Worlds that are related answer every question alike but what might be a challenge, in whatever
state they are asked, and stay related. -/
def Resembling (env : Responses State Ask Ask.Reply W) (like : W → W → Prop) : Prop :=
  ∀ w w', like w w' → ∀ q s, q.lists = false →
    (env q (w, s)).1 = (env q (w', s)).1 ∧ (env q (w, s)).2.2 = (env q (w', s)).2.2 ∧
      like (env q (w, s)).2.1 (env q (w', s)).2.1

/-- Nothing that is asked tells the worlds apart, but what might be a challenge. -/
def Alike (env : Responses State Ask Ask.Reply W) (w w' : W) : Prop :=
  ∃ like, Resembling env like ∧ like w w'

/-- Whoever asks the question leaves no trace. -/
def Ask.Traceless (env : Responses State Ask Ask.Reply W) (q : Ask) : Prop :=
  ∀ x, Alike env (env q x).2.1 x.1 ∧ (env q x).2.2 = x.2

/-- A page that is asked what might be a challenge does not answer, or lists what is none. -/
def Challenge.Detector.Clears (d : Challenge.Detector) : Result Json → Prop
  | .ok listed => ∃ cs, candidates listed = .ok cs ∧ ∀ url, (d.judge cs url).isFound = false
  | .error fault => fault.isCancelled = false

/-- A page that never shows a challenge, whatever the reason: it is closed, does not answer, or what
it lists is none. Looking at it leaves no trace and takes no time. -/
structure Unchallenged (env : Responses State Ask Ask.Reply W) (d : Challenge.Detector)
    (page : PageRef) : Prop where
  isClosed : ∀ x, ∃ closed, (env (.page page .isClosed) x).1 = .ok closed
  candidates : ∀ x, d.Clears (env (.page page (.candidates d.selectors)) x).1
  url : ∀ x, Uncancelled (env (.page page .url) x).1
  clock : Ask.elapsed.Traceless env
  calls : ∀ call, (Ask.page page call).peeks = true → (Ask.page page call).Traceless env

section

variable {env : Responses State Ask Ask.Reply W} {w w' w'' : W} {q : Ask}

theorem alike_refl (env : Responses State Ask Ask.Reply W) (w : W) : Alike env w w :=
  ⟨Eq, fun _ _ heq _ _ _ => heq ▸ ⟨rfl, rfl, rfl⟩, rfl⟩

theorem Alike.trans (h : Alike env w w') (h' : Alike env w' w'') : Alike env w w'' := by
  obtain ⟨like, hlike, hw⟩ := h
  obtain ⟨like', hlike', hw'⟩ := h'
  refine ⟨fun v v'' => ∃ v', like v v' ∧ like' v' v'', ?_, w', hw, hw'⟩
  rintro v v'' ⟨v', hv, hv'⟩ q s hq
  obtain ⟨hreply, hstate, hnext⟩ := hlike v v' hv q s hq
  obtain ⟨hreply', hstate', hnext'⟩ := hlike' v' v'' hv' q s hq
  exact ⟨hreply.trans hreply', hstate.trans hstate', _, hnext, hnext'⟩

theorem Alike.answers (h : Alike env w w') (hq : q.lists = false) (s : State) :
    (env q (w, s)).1 = (env q (w', s)).1 ∧ (env q (w, s)).2.2 = (env q (w', s)).2.2 ∧
      Alike env (env q (w, s)).2.1 (env q (w', s)).2.1 := by
  obtain ⟨like, hlike, hw⟩ := h
  obtain ⟨hreply, hstate, hnext⟩ := hlike w w' hw q s hq
  exact ⟨hreply, hstate, like, hlike, hnext⟩

theorem Ask.Views.lists (h : q.Views) : q.lists = false := by
  cases q with
  | page page call =>
    cases call with
    | candidates => exact absurd trivial h.2
    | _ => rfl
  | _ => rfl

theorem Ask.Tells.lists (h : q.Tells) : q.lists = false := by
  cases q with
  | page => exact h.elim
  | _ => rfl

theorem Ask.Acquires.lists (h : q.Acquires) : q.lists = false := by
  rcases h with ⟨ticket, rfl⟩ | hopens
  · rfl
  · cases q with
    | page page call =>
      cases call with
      | candidates => exact hopens.elim
      | _ => rfl
    | _ => rfl

end

namespace Runner

variable {env : Responses State Ask Ask.Reply W} {taskId : String} {r : Runner} {run : Run}
  {index : Nat} {c : Pause.Coordinator} {α : Type}

theorem Prepares.lists {page : PageRef} {q : Ask} (h : Prepares page q) : q.lists = false := by
  rcases h with rfl | ⟨event, rfl⟩
  · rfl
  · rfl

theorem Concludes.lists {q : Ask} (h : Concludes q) : q.lists = false := by
  rcases h with rfl | htells
  · rfl
  · exact htells.lists

/-- The runner with another way to pause, or with none. -/
def pausing (r : Runner) (coordinator : Option Pause.Coordinator) : Runner := { r with coordinator }

/-- Runs agree in worlds that are alike, where they share the same state and the task is not
paused. -/
def unpaused (env : Responses State Ask Ask.Reply W) (taskId : String) :
    Comparison State Ask W where
  agree x y := Alike env x.1 y.1 ∧ x.2 = y.2 ∧ x.2.board.handle? taskId = none
  aside := Ask.peeks

/-- Nobody else begins a pause of the task. -/
def LeavesUnpaused (env : Responses State Ask Ask.Reply W) (taskId : String) : Prop :=
  ∀ q x, x.2.board.handle? taskId = none → (env q x).2.2.board.handle? taskId = none

theorem lawful_unpaused (halone : LeavesUnpaused env taskId) :
    (unpaused env taskId).Lawful env (fun q => q.lists = false) KeepsBoard where
  shared _ _ hagree := hagree.2.1
  written x _ s hagree hkeeps := by
    refine ⟨hagree.1, rfl, ?_⟩
    rw [show s.board = x.2.board from hkeeps]
    exact hagree.2.2
  answered q x y hq hagree := by
    obtain ⟨w, s⟩ := x
    obtain ⟨w', s'⟩ := y
    obtain ⟨halike, rfl, hnone⟩ := hagree
    obtain ⟨hreply, hstate, hafter⟩ := halike.answers hq s
    exact ⟨hreply, hafter, hstate, halone q (w, s) hnone⟩

theorem agree_of_traceless {q : Ask} (hq : q.Traceless env) (x y : W × State)
    (hagree : (unpaused env taskId).agree x y) : (unpaused env taskId).agree (env q x).2 y := by
  obtain ⟨halike, hsame, hnone⟩ := hagree
  obtain ⟨hafter, hstate⟩ := hq x
  exact ⟨hafter.trans halike, hstate.trans hsame, hstate ▸ hnone⟩

/-! ## A look for challenges -/

section

variable {page : PageRef} {d : Challenge.Detector}

theorem unnoticed_elapsed (hpage : Unchallenged env d page) :
    Unnoticed env (unpaused env taskId) Activity.elapsed fun result => ∃ now, result = .ok now :=
  unnoticed_ask rfl fun x y hagree => ⟨agree_of_traceless hpage.clock x y hagree,
    unnoticed_ofResult (.ok _) ⟨_, rfl⟩⟩

theorem unnoticed_call (hpage : Unchallenged env d page) (call : PageCall)
    (hpeeks : (Ask.page page call).peeks = true) (fine : Result call.Answer → Prop)
    (hfine : ∀ x, fine (env (.page page call) x).1) :
    Unnoticed env (unpaused env taskId) (page.call call) fine :=
  unnoticed_ask hpeeks fun x y hagree => ⟨agree_of_traceless (hpage.calls call hpeeks) x y hagree,
    unnoticed_ofResult _ (hfine x)⟩

theorem unnoticed_ask_page (hpage : Unchallenged env d page) :
    Unnoticed env (unpaused env taskId) (d.ask page) fun result => ∃ answer, result = .ok answer ∧
      ∀ listed url, answer = some (listed, url) → d.Clears (.ok listed) := by
  refine unnoticed_rescue ?_ fun _ => unnoticed_ofResult (.ok none) ⟨none, rfl, nofun⟩
  refine unnoticed_bind (unnoticed_call hpage (.candidates _) rfl d.Clears hpage.candidates)
    (fun listed hlisted => ?_) fun _ => id
  refine unnoticed_bind (unnoticed_call hpage .url rfl Uncancelled hpage.url) (fun url _ => ?_)
    fun _ => Uncancelled.not_isCancelled
  refine unnoticed_ofResult (.ok (some (listed, url))) ⟨_, rfl, ?_⟩
  rintro _ _ ⟨⟩
  exact hlisted

theorem unnoticed_inspect (hpage : Unchallenged env d page) :
    Unnoticed env (unpaused env taskId) (d.inspect (some page)) fun result =>
      ∃ found, result = .ok found ∧ found.isFound = false := by
  have hdismissed : ∀ reason url, Unnoticed env (unpaused env taskId)
      (.done (.dismissed reason url)) fun result : Result Challenge.Detection =>
        ∃ found, result = .ok found ∧ found.isFound = false :=
    fun reason url => unnoticed_ofResult (.ok _) ⟨_, rfl, rfl⟩
  refine unnoticed_bind (unnoticed_call hpage .isClosed rfl
    (fun result => ∃ closed, result = .ok closed) hpage.isClosed) (fun closed _ => ?_)
      (by rintro fault ⟨_, ⟨⟩⟩)
  split
  · exact hdismissed _ _
  split
  · exact hdismissed _ _
  refine unnoticed_bind (unnoticed_ask_page hpage) (fun answer hanswer => ?_)
    (by rintro fault ⟨_, ⟨⟩, -⟩)
  obtain ⟨_, ⟨⟩, hclears⟩ := hanswer
  cases answer with
  | none => exact hdismissed _ _
  | some answer =>
    obtain ⟨listed, url⟩ := answer
    obtain ⟨cs, hcs, hnone⟩ := hclears listed url rfl
    dsimp only
    rw [hcs]
    exact unnoticed_ofResult (.ok _) ⟨_, rfl, hnone url⟩

end

/-! ## Steps -/

/-- What is the same with a coordinator and without one. -/
theorem mirrored_same (halone : LeavesUnpaused env taskId) {p : Activity α} {asks : Ask → Prop}
    {writes : State → State → Prop} (hp : p.Confined asks writes)
    (hasks : ∀ q, asks q → q.lists = false) (hwrites : ∀ s s', writes s s' → KeepsBoard s s') :
    Mirrored env (unpaused env taskId) p p :=
  (hp.mono hasks hwrites).mirrored (lawful_unpaused halone)

theorem mirrored_ask (halone : LeavesUnpaused env taskId) {q : Ask} (hq : q.lists = false)
    {next : Ask.Reply q → Activity α}
    (hnext : ∀ r, (next r).Confined (fun q => q.lists = false) KeepsBoard) :
    Mirrored env (unpaused env taskId) (.ask q next) (.ask q next) :=
  mirrored_same halone (confined_ask hq hnext) (fun _ => id) fun _ _ => id

theorem mirrored_call (halone : LeavesUnpaused env taskId) (page : PageRef) {call : PageCall}
    (hcall : (Ask.page page call).lists = false) :
    Mirrored env (unpaused env taskId) (page.call call) (page.call call) :=
  mirrored_ask halone hcall fun r => confined_ofResult r

theorem mirrored_views (halone : LeavesUnpaused env taskId) {p : Activity α} (hp : p.Views) :
    Mirrored env (unpaused env taskId) p p :=
  mirrored_same halone hp (fun _ => Ask.Views.lists) fun _ _ => False.elim

theorem mirrored_fillSources (halone : LeavesUnpaused env taskId) (sources : List Source)
    (text : String) : Mirrored env (unpaused env taskId)
      ((r.pausing (some c)).fillSources run sources text)
      ((r.pausing none).fillSources run sources text) := by
  induction sources generalizing text with
  | nil => exact mirrored_ofResult (.ok _)
  | cons source rest ih =>
    refine mirrored_bind (mirrored_views halone (reads_extract _ _ _).views) fun extraction => ?_
    cases extraction with
    | value found => exact ih _
    | miss reason => exact mirrored_bind (ih _) fun _ => mirrored_ofResult (.ok _)

section

variable (hpage : Unchallenged env c.detector run.page)
include hpage

theorem mirrored_checkpoint : Mirrored env (unpaused env taskId)
    ((r.pausing (some c)).checkpoint run index) ((r.pausing none).checkpoint run index) := by
  have hnone : Mirrored env (unpaused env taskId) (.done none : Activity (Option Double))
      (.done none) := mirrored_ofResult (.ok none)
  have hlook : Unnoticed env (unpaused env taskId)
      (c.checkpoint run.taskId (some run.page) index run.totalSteps) (· = .ok false) := by
    refine unnoticed_bind (unnoticed_inspect hpage) (fun found hfound => ?_) (by
      rintro fault ⟨_, ⟨⟩, -⟩)
    obtain ⟨_, ⟨⟩, hnot⟩ := hfound
    dsimp only
    rw [hnot]
    exact unnoticed_ofResult (.ok false) rfl
  refine (unnoticed_elapsed hpage).bind_mirrored (by rintro fault ⟨_, ⟨⟩⟩) fun start _ => ?_
  refine hlook.bind_mirrored (by rintro fault ⟨⟩) fun paused hpaused => ?_
  cases hpaused
  exact hnone

variable (halone : LeavesUnpaused env taskId)
include halone

theorem mirrored_waitThroughPause (selector : String) (timeoutMs : Int) :
    Mirrored env (unpaused env taskId)
      ((r.pausing (some c)).waitThroughPause run index selector timeoutMs)
      ((r.pausing none).waitThroughPause run index selector timeoutMs) := by
  have hwait := mirrored_views halone (run.page.reads_waitVisible selector timeoutMs).views
  refine mirrored_bind (mirrored_attempt hwait) fun result => ?_
  split
  · exact mirrored_ofResult (.ok none)
  · rename_i s t
    refine mirrored_bind (mirrored_checkpoint hpage) fun paused => ?_
    cases paused with
    | none => exact mirrored_ofResult (.error (.elementNotFound s t))
    | some seconds => exact mirrored_bind hwait fun _ => mirrored_ofResult (.ok _)
  · exact mirrored_ofResult (.error _)

theorem mirrored_navigate (url ready : String) (g : Gathered) :
    Mirrored env (unpaused env taskId) ((r.pausing (some c)).navigate run index url ready g)
      ((r.pausing none).navigate run index url ready g) := by
  refine mirrored_bind (mirrored_call halone _ rfl) fun _ =>
    mirrored_bind (mirrored_checkpoint hpage) fun pause => ?_
  refine mirrored_ite (mirrored_ofResult (.ok _)) (mirrored_bind (mirrored_rescueIf
    (mirrored_waitThroughPause hpage halone _ _) fun _ => mirrored_ofResult (.error _))
      fun _ => mirrored_ofResult (.ok _))

theorem mirrored_click (selector : String) (g : Gathered) :
    Mirrored env (unpaused env taskId) ((r.pausing (some c)).click run index selector g)
      ((r.pausing none).click run index selector g) :=
  mirrored_bind (mirrored_waitThroughPause hpage halone _ _) fun _ =>
    mirrored_bind (mirrored_call halone _ rfl) fun _ =>
      mirrored_bind (mirrored_checkpoint hpage) fun _ => mirrored_ofResult (.ok _)

theorem mirrored_perform (g : Gathered) (action : Action) :
    Mirrored env (unpaused env taskId) ((r.pausing (some c)).perform run index g action)
      ((r.pausing none).perform run index g action) := by
  cases action with
  | navigate url ready => exact mirrored_navigate hpage halone url ready g
  | click selector => exact mirrored_click hpage halone selector g
  | compositeExtract template sources dataName =>
    exact mirrored_bind (mirrored_fillSources halone sources template) fun _ =>
      mirrored_ofResult (.ok _)
  | _ => exact mirrored_views halone (views_perform g (by simp) (by simp))

theorem mirrored_performStep (step : Step) (g : Gathered) :
    Mirrored env (unpaused env taskId) ((r.pausing (some c)).performStep run index step g)
      ((r.pausing none).performStep run index step g) :=
  mirrored_rescueIf (mirrored_perform hpage halone g step.action) fun _ => mirrored_ofResult (.ok _)

/-! ## Runs -/

variable (hr : (r.pausing none).Plain)
include hr

theorem mirrored_performSteps (start : Double) (g : Gathered) (steps : List Step) :
    Mirrored env (unpaused env taskId) ((r.pausing (some c)).performSteps run start index g steps)
      ((r.pausing none).performSteps run start index g steps) := by
  induction steps generalizing index g with
  | nil => exact mirrored_ofResult (.ok _)
  | cons step rest ih =>
    have hannounce : ∀ status position message, Mirrored env (unpaused env taskId)
        ((r.pausing (some c)).announce run status position message)
        ((r.pausing none).announce run status position message) :=
      fun status position message => mirrored_same halone
        (Progress.confined_announce hr.channel _ status position _ message)
        (fun _ => Ask.Tells.lists) (by rintro _ _ ⟨_, _, rfl⟩; rfl)
    refine mirrored_bind (mirrored_views halone Activity.reads_elapsed.views) fun now =>
      mirrored_ite (mirrored_ofResult (.ok _)) ?_
    refine mirrored_bind (hannounce _ _ _) fun _ =>
      mirrored_bind (mirrored_performStep hpage halone step g) fun ⟨outcome, g⟩ => ?_
    cases outcome with
    | fatal failure => exact mirrored_ofResult (.ok _)
    | ok | recovered => exact ih _

end

theorem unnoticed_cancel : Unnoticed env (unpaused env taskId) (Pause.cancel taskId) fun result =>
    ∃ was, result = .ok was := by
  intro x y hagree
  refine ⟨⟨_, rfl⟩, ?_, rfl⟩
  have hsame : (x.2.board.cancel taskId).2 = x.2.board := by
    unfold Pause.Board.cancel
    rw [hagree.2.2]
  change (unpaused env taskId).agree (x.1, { x.2 with board := (x.2.board.cancel taskId).2 }) y
  rwa [hsame]

theorem mirrored_handBack (halone : LeavesUnpaused env run.taskId) (hr : (r.pausing none).Plain) :
    Mirrored env (unpaused env run.taskId) ((r.pausing (some c)).handBack run)
      ((r.pausing none).handBack run) := by
  have hrelease : Mirrored env (unpaused env run.taskId) (r.release run.page)
      (r.release run.page) := by
    rw [show r.release = Session.release from hr.release]
    refine mirrored_same halone (Session.confined_release run.page) ?_ fun _ _ => False.elim
    rintro _ (rfl | rfl) <;> rfl
  refine mirrored_bind (mirrored_same halone (Network.confined_detach run.page) ?_ fun _ _ => id)
    fun _ => unnoticed_cancel.bind_mirrored (by rintro fault ⟨_, ⟨⟩⟩) fun _ _ => hrelease
  rintro _ ⟨event, rfl⟩
  rfl

theorem mirrored_onPage (hpage : Unchallenged env c.detector run.page)
    (halone : LeavesUnpaused env run.taskId) (hr : (r.pausing none).Plain) (start : Double)
    (steps : List Step) : Mirrored env (unpaused env run.taskId)
      ((r.pausing (some c)).onPage run start steps) ((r.pausing none).onPage run start steps) := by
  rw [onPage_eq, onPage_eq]
  exact mirrored_bind (mirrored_same halone (confined_prepare run) (fun _ => Prepares.lists)
    fun _ _ => id) fun _ => mirrored_ensure (mirrored_performSteps hpage halone hr start {} steps)
      (mirrored_handBack halone hr)

theorem mirrored_acquire (halone : LeavesUnpaused env taskId) (hr : (r.pausing none).Plain) :
    Mirrored env (unpaused env taskId) r.acquire r.acquire := by
  obtain ⟨o, ho⟩ := hr.acquire
  rw [show r.acquire = Session.acquire o from ho]
  exact mirrored_same halone (Session.confined_acquire o) (fun _ => Ask.Acquires.lists)
    fun _ _ => id

theorem mirrored_conclude (halone : LeavesUnpaused env taskId) (hr : (r.pausing none).Plain)
    {w : Workflow} {context : TaskContext} (startedAt : Int) (start : Double)
    (failure : Option Failure) (g : Gathered) : Mirrored env (unpaused env taskId)
      ((r.pausing (some c)).conclude w context startedAt start failure g)
      ((r.pausing none).conclude w context startedAt start failure g) :=
  mirrored_same halone (confined_conclude hr startedAt start failure g) (fun _ => Concludes.lists)
    (by rintro _ _ ⟨_, _, rfl⟩; rfl)

/-- Where a page never shows a challenge, and nobody else has paused the task, a run with a
coordinator and one without come to the same result at the same times, tell of the same, and leave
the same, and they ask the same in the same order but for what is asked in looks for challenges. -/
theorem execute_unchallenged (r : Runner) (c : Pause.Coordinator) (w : Workflow)
    (context : TaskContext) (hr : (r.pausing none).Plain) {x : W × State}
    (hunpaused : x.2.board.handle? context.taskId = none)
    (halone : LeavesUnpaused env context.taskId)
    (hpage : ∀ page, (r.acquire.run env (env .elapsed (env .now x).2).2).1 = .ok page →
      Unchallenged env c.detector page) :
    let checked := (r.pausing (some c)).execute w context
    let unchecked := (r.pausing none).execute w context
    (checked.run env x).1 = (unchecked.run env x).1 ∧
      (checked.run env x).2.2 = (unchecked.run env x).2.2 ∧
      Alike env (checked.run env x).2.1 (unchecked.run env x).2.1 ∧
      (checked.asked env x).filter (!Ask.peeks ·) =
        (unchecked.asked env x).filter (!Ask.peeks ·) := by
  have hmirrors : ((r.pausing (some c)).execute w context).Mirrors env
      (unpaused env context.taskId) x ((r.pausing none).execute w context) x := by
    rw [execute_eq, execute_eq]
    have hbegins : Mirrored env (unpaused env context.taskId) Activity.now Activity.now :=
      mirrored_ask halone rfl fun _ => confined_done _
    refine (hbegins x x ⟨alike_refl env _, rfl, hunpaused⟩).bind
      fun startedAt x₁ y₁ hnow _ hnowagree => ?_
    refine (mirrored_views halone Activity.reads_elapsed.views _ _ hnowagree).bind
      fun start x₂ y₂ helapsed _ hstarts => ?_
    obtain rfl : (env .now x).2 = x₁ := congrArg Prod.snd hnow
    obtain rfl : (env .elapsed (env .now x).2).2 = x₂ := congrArg Prod.snd helapsed
    refine (mirrored_acquire halone hr _ _ hstarts).attempt.bind
      fun result x' y' hrun _ hagree => ?_
    rw [run_attempt] at hrun
    have hgot := Except.ok.inj (Prod.mk.inj hrun).1
    cases result with
    | ok page =>
      let run : Run := ⟨context.taskId, page, (w.resolve context).length⟩
      have honPage : Mirrored env (unpaused env run.taskId)
          ((r.pausing (some c)).onPage run start (w.resolve context))
          ((r.pausing none).onPage run start (w.resolve context)) :=
        mirrored_onPage (hpage page hgot) halone hr start _
      exact mirrored_bind honPage
        (fun ended => mirrored_conclude halone hr startedAt start ended.1 ended.2) x' y' hagree
    | error fault =>
      cases fault with
      | cancelled => exact mirrored_ofResult (.error .cancelled) x' y' hagree
      | _ => exact mirrored_conclude halone hr startedAt start _ {} x' y' hagree
  exact ⟨hmirrors.result, hmirrors.agree.2.1, hmirrors.agree.1, hmirrors.asked⟩

/-! ## A target that is missing -/

/-- No element comes up. The first look at the page finds nothing, the second something that cannot
be seen, and from then on the page does not answer. -/
def bare : Responses State Ask Ask.Reply Nat
  | .page _ (.candidates _), (0, s) => (.ok .null, 1, s)
  | .page _ (.candidates _), (1, s) => (.ok (.arr [.obj [("visible", .bool false)]]), 2, s)
  | .page _ (.candidates _), (looks, s) => (.error (.general "detached"), looks + 1, s)
  | .page _ (.goto _ _), x => (.ok (), x)
  | .page _ (.waitFor _ _), x => (.ok none, x)
  | q, x => (obliging false q, x)

theorem bare_leaves (q : Ask) (x : Nat × State) : (bare q x).2.2 = x.2 := by
  unfold bare
  split <;> rfl

theorem alike_bare (looks looks' : Nat) : Alike bare looks looks' := by
  refine ⟨fun _ _ => True, fun looks looks' _ q s hq => ⟨?_, ?_, trivial⟩, trivial⟩
  · cases q with
    | page page call =>
      cases call with
      | candidates => cases hq
      | _ => rfl
    | _ => rfl
  · rw [bare_leaves, bare_leaves]

theorem traceless_bare (q : Ask) : q.Traceless bare :=
  fun x => ⟨alike_bare _ _, bare_leaves q x⟩

theorem unchallenged_bare (d : Challenge.Detector) (page : PageRef) :
    Unchallenged bare d page where
  isClosed _ := ⟨false, rfl⟩
  candidates
    | (0, _) => ⟨[], rfl, fun _ => rfl⟩
    | (1, _) => ⟨_, rfl, fun _ => rfl⟩
    | (_ + 2, _) => rfl
  url _ := uncancelled_ok _
  clock := traceless_bare _
  calls _ _ := traceless_bare _

/-- The step that clicks fails where its target is missing, whether anybody has looked for a
challenge or not. -/
theorem execute_unchallenged_bare :
    let c := Pause.Coordinator.ofSettings sampleSettings.challenge
    let checked := (sampleService.runner.pausing (some c)).execute openThenClick sampleContext
    let unchecked := (sampleService.runner.pausing none).execute openThenClick sampleContext
    (checked.run bare (0, {})).1 = (unchecked.run bare (0, {})).1 ∧
      (checked.run bare (0, {})).2.1 = 2 ∧ (unchecked.run bare (0, {})).2.1 = 0 ∧
      (unchecked.run bare (0, {})).1.toOption.map (fun e => e.failure.isSome) = some true := by
  intro c checked unchecked
  have hplain : (sampleService.runner.pausing none).Plain := {
    acquire := ⟨sampleService.session, rfl⟩
    release := rfl
    channel := Progress.plain_busChannel
    pauses := nofun }
  have halone : LeavesUnpaused bare sampleContext.taskId := fun q x hnone => by
    rwa [bare_leaves]
  obtain ⟨hsame, -⟩ := execute_unchallenged sampleService.runner c openThenClick sampleContext
    hplain (x := (0, {})) rfl halone fun page _ => unchallenged_bare c.detector page
  exact ⟨hsame, by decide +kernel, by decide +kernel, by decide +kernel⟩

end Runner
end Pageflow
