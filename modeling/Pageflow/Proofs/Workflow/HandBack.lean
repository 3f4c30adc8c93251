import Pageflow.Proofs.Network.Listening
import Pageflow.Proofs.Session.Pages
import Pageflow.Proofs.Workflow.Results
import Pageflow.Proofs.Workflow.Routine

/-! The hand-back of a page. However the steps of a run end, its page is closed once and no other
is, the listeners are gone, and no pause of its task is left. -/
namespace Pageflow

open Browser Program

variable {W : Type}

theorem Ask.Runs.closing?_eq_none {q : Ask} (h : q.Runs) : q.closing? = none := by
  rcases h with hworks | hpauses
  · cases q with
    | page page call =>
      cases call with
      | close => exact absurd trivial hworks
      | _ => rfl
    | _ => rfl
  · cases q with
    | page => cases hpauses
    | _ => rfl

theorem Ask.Runs.ne_listen {q : Ask} (h : q.Runs) (page : PageRef)
    (event : Network.RequestEvent) : q ≠ .page page (.listen event) := by
  rintro rfl
  rcases h with hworks | hpauses
  · exact hworks trivial
  · cases hpauses

theorem KeepsBoard.sound {s s' : State} (h : KeepsBoard s s') (hsound : s.board.Sound) :
    s'.board.Sound := by
  rwa [show s'.board = s.board from h]

namespace Runner

/-- Nobody cancels the hand-back of a page. -/
structure Undisturbed (env : Responses State Ask Ask.Reply W) (page : PageRef) : Prop where
  unlisten : ∀ event x, Uncancelled (env (.page page (.unlisten event)) x).1
  isClosed : ∀ x, Uncancelled (env (.page page .isClosed) x).1
  close : ∀ x, Uncancelled (env (.page page .close) x).1

/-- Nobody else begins a pause of a task. -/
structure Alone (env : Responses State Ask Ask.Reply W) (taskId : String) : Prop where
  sound : ∀ q x, x.2.board.Sound → (env q x).2.2.board.Sound
  unpaused : ∀ q x, x.2.board.handle? taskId = none → (env q x).2.2.board.handle? taskId = none

variable {r : Runner} {run : Run} {w : Workflow} {context : TaskContext}
  {env : Responses State Ask Ask.Reply W} {tells : W → Network.RequestEvent → Prop}
  {x y : W × State} {calls : List Ask}

/-- The board stays sound whatever is done that does not write to it. -/
theorem Alone.holds_sound {α : Type} {taskId : String} {asks : Ask → Prop}
    {writes : State → State → Prop} {p : Activity α} {result : Result α}
    (halone : Alone env taskId) (hp : p.Confined asks writes)
    (hruns : p.Runs env x calls result y)
    (hwrites : ∀ s s', writes s s' → s.board.Sound → s'.board.Sound)
    (hsound : x.2.board.Sound) : y.2.board.Sound :=
  hp.holds (I := fun x => x.2.board.Sound) hruns (fun _ s s' hs => hwrites s s' hs)
    (fun q x _ => halone.sound q x) hsound

/-- What is asked to get a page ready. -/
def Prepares (page : PageRef) (q : Ask) : Prop :=
  q = .elapsed ∨ ∃ event, q = .page page (.listen event)

theorem confined_prepare (run : Run) :
    (prepare run).Confined (Prepares run.page) KeepsBoard := by
  have hlisten : ∀ events,
      (Network.listenAll run.page events).Confined (Prepares run.page) KeepsBoard := by
    intro events
    induction events with
    | nil => exact confined_done _
    | cons event rest ih =>
      exact Confined.bind (confined_ask (.inr ⟨event, rfl⟩) fun r => confined_ofResult r)
        fun _ => ih
  have hclock : Activity.elapsed.Confined (Prepares run.page) KeepsBoard :=
    confined_ask (.inl rfl) fun _ => confined_done _
  have hset : ∀ set : Double → State → State, (∀ now s, KeepsBoard s (set now s)) →
      (Activity.elapsed.bind fun now => .modify (set now)).Confined
        (Prepares run.page) KeepsBoard :=
    fun set hkeeps => hclock.bind fun now => confined_modify (hkeeps now)
  refine Confined.bind (hset (fun now s => s.setMonitor run.page (.new now)) fun _ _ => rfl)
    fun _ => confined_read fun s => ?_
  exact confined_ite ((hlisten _).bind fun _ => hset _ fun _ _ => rfl) (confined_done _)

theorem Prepares.closing?_eq_none {page : PageRef} {q : Ask} (h : Prepares page q) :
    q.closing? = none := by
  rcases h with rfl | ⟨event, rfl⟩
  · rfl
  · rfl

theorem handBack_runs (hr : r.Plain) (hhosts : Network.Hosts env run.page tells)
    (hundisturbed : Undisturbed env run.page) (halone : Alone env run.taskId)
    (hattached : (x.2.monitor run.page).attached = true) (hsound : x.2.board.Sound)
    {result : Result Unit} (h : (r.handBack run).Runs env x calls result y) :
    result = .ok () ∧ ∃ releasing left,
      calls = Network.RequestEvent.all.map (fun event => .page run.page (.unlisten event)) ++
        releasing ∧
      Network.Unwatched env run.page tells x left ∧
      (r.coordinator.isSome → left.2.board.handle? run.taskId = none) ∧
      (Session.release run.page).Runs env left releasing (.ok ()) y := by
  unfold handBack at h
  rw [hr.release] at h
  rcases runs_bind.mp h with ⟨_, detaching, rest, z, rfl, hdetach, hrest⟩ | ⟨_, rfl, hdetach⟩
  · obtain ⟨-, rfl, hunwatched⟩ :=
      Network.detach_runs hhosts hundisturbed.unlisten hattached hdetach
    have hkeeps : z.2.board.Sound := halone.holds_sound (Network.confined_detach run.page) hdetach
      (fun _ _ => KeepsBoard.sound) hsound
    by_cases hcoordinator : r.coordinator.isSome = true
    · rw [if_pos hcoordinator] at hrest
      rcases runs_bind.mp hrest with ⟨_, _, releasing, left, rfl, hcancel, hrelease⟩ |
        ⟨_, -, hcancel⟩
      · obtain ⟨rfl, -, hleft⟩ := runs_update.mp hcancel
        have hboard : left.2.board.handle? run.taskId = none := by
          rw [hleft]
          exact hkeeps.handle?_cancel
        have hlets : Network.Unwatched env run.page tells x left := by
          rw [hleft]
          exact ⟨hunwatched.attached, hunwatched.inflight, hunwatched.listeners⟩
        obtain ⟨rfl, -⟩ :=
          Session.release_runs hundisturbed.isClosed hundisturbed.close hrelease
        exact ⟨rfl, releasing, left, rfl, hlets, fun _ => hboard, hrelease⟩
      · cases (runs_update.mp hcancel).2.1
    · rw [if_neg hcoordinator] at hrest
      obtain ⟨rfl, -⟩ := Session.release_runs hundisturbed.isClosed hundisturbed.close hrest
      exact ⟨rfl, rest, z, rfl, hunwatched, fun hsome => absurd hsome hcoordinator, hrest⟩
  · cases (Network.detach_runs hhosts hundisturbed.unlisten hattached hdetach).1

/-- What is asked to tell of the end of a run. -/
def Concludes (q : Ask) : Prop := q = .elapsed ∨ q.Tells

theorem Concludes.runs {q : Ask} (h : Concludes q) : q.Runs := by
  rcases h with rfl | htells
  · exact .inl trivial
  · exact .inr htells.pauses

theorem confined_conclude (hr : r.Plain) (startedAt : Int) (start : Double)
    (failure : Option Failure) (g : Gathered) :
    (r.conclude w context startedAt start failure g).Confined Concludes Told := by
  have htell : ∀ status position total message,
      (Progress.announce r.channel context.taskId status position total message).Confined
        Concludes Told :=
    fun status position total message => (Progress.confined_announce hr.channel _ status position
      total message).mono (fun _ => .inr) fun _ _ => id
  have hreport : (r.report context.taskId (w.resolve context).length failure).Confined
      Concludes Told := by
    cases failure with
    | none => exact htell _ _ _ _
    | some f => exact htell _ _ _ _
  refine Confined.bind (confined_ask (.inl rfl) fun _ => confined_done _) fun _ => ?_
  refine Confined.bind (confined_ask (.inr trivial) fun _ => confined_done _) fun _ => ?_
  exact hreport.bind fun _ => confined_done _

/-- After the hand-back a run does no more than tell of its end. -/
theorem Closes.split (hr : r.Plain) {startedAt : Int} {start : Double}
    {loop : Result (Option Failure × Gathered)} {result : Result Execution}
    (h : Closes r run w context env startedAt start loop x calls result y) :
    ∃ handing back closed telling, ∃ ending : Activity Execution, calls = handing ++ telling ∧
      (r.handBack run).Runs env x handing back closed ∧ ending.Confined Concludes Told ∧
      ending.Runs env closed telling result y := by
  cases h with
  | concluded hback hend =>
    exact ⟨_, _, _, _, _, rfl, hback, confined_conclude hr _ _ _ _, hend⟩
  | broken hback hfault =>
    exact ⟨_, _, _, [], .fail _, (List.append_nil _).symm, hback, confined_fail _,
      runs_fail.mpr ⟨rfl, rfl, rfl⟩⟩

theorem attached_of_prepare (h : (prepare run).Runs env x calls (.ok ()) y) :
    (y.2.monitor run.page).attached = true := by
  obtain ⟨_, _, _, _, -, -, hattach⟩ := runs_bind_ok.mp h
  exact Network.attached_of_attach hattach

/-- When the steps end, however they do, the monitor is still attached and the board sound. -/
theorem performSteps_keeps (hr : r.Plain) (hhosts : Network.Hosts env run.page tells)
    (halone : Alone env run.taskId) {start : Double} {index : Nat} {g : Gathered}
    {steps : List Step} {result : Result (Option Failure × Gathered)}
    (h : (r.performSteps run start index g steps).Runs env x calls result y)
    (hattached : (x.2.monitor run.page).attached = true) (hsound : x.2.board.Sound) :
    (y.2.monitor run.page).attached = true ∧ y.2.board.Sound := by
  have hsteps : (r.performSteps run start index g steps).Confined Ask.Runs Paused :=
    confined_performSteps hr start g steps
  constructor
  · refine hsteps.holds (I := fun x => (x.2.monitor run.page).attached = true) h ?_ ?_ hattached
    · rintro _ _ _ ⟨_, _, _, rfl, -⟩
      exact id
    · intro q x _ hkept
      rw [hhosts.attached, hkept]
  · refine halone.holds_sound hsteps h ?_ hsound
    rintro _ _ ⟨_, _, _, rfl, hboard⟩
    exact hboard

/-- What was let go of stays so while the page is closed and the end is told. -/
theorem release_keeps {page : PageRef} {taskId : String}
    (hhosts : Network.Hosts env page tells) (halone : Alone env taskId) {left closed : W × State}
    {releasing telling : List Ask} {ending : Activity Execution} {ended : Result Execution}
    (hrelease : (Session.release page).Runs env left releasing (.ok ()) closed)
    (hending : ending.Confined Concludes Told) (htelling : ending.Runs env closed telling ended y) :
    ((∀ event, ¬ tells left.1 event) → y.2.monitor page = left.2.monitor page) ∧
      (left.2.board.handle? taskId = none → y.2.board.handle? taskId = none) := by
  have hruns : ((Session.release page).bind fun _ => ending).Runs env left (releasing ++ telling)
      ended y := runs_bind.mpr (.inl ⟨(), releasing, telling, closed, rfl, hrelease, htelling⟩)
  have hlast : ((Session.release page).bind fun _ => ending).Confined
      (fun q => ∀ event, q ≠ .page page (.listen event)) Told := by
    refine ((Session.confined_release page).mono ?_ fun _ _ => False.elim).bind fun _ =>
      hending.mono (fun q hq => hq.runs.ne_listen page) fun _ _ => id
    rintro _ (rfl | rfl) event hlisten <;> cases hlisten
  constructor
  · refine hhosts.still hlast hruns (fun _ => id) ?_
    rintro _ _ ⟨_, _, rfl⟩
    rfl
  · refine hlast.holds (I := fun x => x.2.board.handle? taskId = none) hruns ?_ ?_
    · rintro _ _ _ ⟨_, _, rfl⟩
      exact id
    · exact fun q x _ => halone.unpaused q x

/-- What a run that got its page leaves, however its steps end: the page is let go of once and no
other is closed, the monitor follows no request any more, and no pause of the task is left. -/
theorem execute_handsBack {page : PageRef} (hr : r.Plain) (hhosts : Network.Hosts env page tells)
    (hundisturbed : Undisturbed env page) (halone : Alone env context.taskId)
    (hsound : x.2.board.Sound) {acquiring preparing : List Ask} {got opened : W × State}
    {ended : Result Execution} (h : (r.execute w context).Runs env x calls ended y)
    (hacquire : r.acquire.Runs env (env .elapsed (env .now x).2).2 acquiring (.ok page) got)
    (hprepare : (prepare ⟨context.taskId, page, (w.resolve context).length⟩).Runs env got preparing
      (.ok ()) opened) :
    ∃ looping releasing telling loop stop left closed,
      calls = .now :: .elapsed :: (acquiring ++ preparing ++ looping ++
        Network.RequestEvent.all.map (fun event => .page page (.unlisten event)) ++ releasing ++
        telling) ∧
      (r.performSteps ⟨context.taskId, page, (w.resolve context).length⟩
        (env .elapsed (env .now x).2).1 0 {} (w.resolve context)).Runs env opened looping loop
          stop ∧
      Network.Unwatched env page tells stop left ∧
      (Session.release page).Runs env left releasing (.ok ()) closed ∧
      (calls.filterMap Ask.closing? =
        match (env (.page page .isClosed) left).1 with
        | .ok false => [page]
        | _ => []) ∧
      (Network.refusals env page Network.RequestEvent.all stop = [] →
        (y.2.monitor page).inflight = []) ∧
      (r.coordinator.isSome → y.2.board.handle? context.taskId = none) := by
  obtain ⟨loop, looping, stop, closing, rfl, hloop, hcloses⟩ := execute_closes h hacquire hprepare
  obtain ⟨handing, back, closed, telling, ending, rfl, hback, hending, htelling⟩ :=
    hcloses.split hr
  obtain ⟨o, ho⟩ := hr.acquire
  rw [ho] at hacquire
  have hgot := halone.holds_sound (Session.confined_acquire o) hacquire
    (fun _ _ => KeepsBoard.sound) (halone.sound _ _ (halone.sound _ _ hsound))
  have hopened := halone.holds_sound (confined_prepare _) hprepare
    (fun _ _ => KeepsBoard.sound) hgot
  obtain ⟨hattached, hstop⟩ :=
    performSteps_keeps hr hhosts halone hloop (attached_of_prepare hprepare) hopened
  obtain ⟨rfl, releasing, left, rfl, hunwatched, hunpaused, hrelease⟩ :=
    handBack_runs hr hhosts hundisturbed halone hattached hstop hback
  obtain ⟨hstill, hfree⟩ := release_keeps hhosts halone hrelease hending htelling
  refine ⟨looping, releasing, telling, loop, stop, left, closed, by simp, hloop, hunwatched,
    hrelease, ?_, fun hnone => ?_, fun hsome => hfree (hunpaused hsome)⟩
  · have hacquired := List.filterMap_eq_nil_iff.mpr fun q hq =>
      ((Session.confined_acquire o).asked hacquire q hq).closing?_eq_none
    have hprepared := List.filterMap_eq_nil_iff.mpr fun q hq =>
      ((confined_prepare _).asked hprepare q hq).closing?_eq_none
    have hperformed : looping.filterMap Ask.closing? = [] := List.filterMap_eq_nil_iff.mpr
      fun q hq => ((confined_performSteps hr _ _ _).asked hloop q hq).closing?_eq_none
    have htold : telling.filterMap Ask.closing? = [] := List.filterMap_eq_nil_iff.mpr
      fun q hq => (hending.asked htelling q hq).runs.closing?_eq_none
    have hclosed := (Session.release_runs hundisturbed.isClosed hundisturbed.close hrelease).2
    simp only [List.filterMap_cons, List.filterMap_append, hacquired, hprepared, hperformed, htold,
      hclosed, Ask.closing?, List.nil_append, List.append_nil]
    rfl
  · rw [hstill, hunwatched.inflight]
    intro event htells
    have hrefused := hunwatched.listeners event htells
    rw [hnone] at hrefused
    cases hrefused

/-! ## A run that is cancelled while it is paused -/

/-- A page that shows a challenge and has a request under way from the first click on. Whoever waits
for the challenge to be resolved is cancelled. -/
def cancelledPause : Responses State Ask Ask.Reply (List Network.RequestEvent)
  | .page ⟨0⟩ (.listen event), (events, s) => (.ok (), event :: events, s)
  | .page ⟨0⟩ (.unlisten event), (events, s) => (.ok (), events.filter (· ≠ event), s)
  | .page ⟨0⟩ (.click _ _), (events, s) =>
    (.ok (), events, if .started ∈ events then s.noteRequest ⟨0⟩ .started "script" 0 else s)
  | .await (.settled _) _, x => (.error .cancelled, x)
  | q, x => (obliging true q, x)

theorem hosts_cancelledPause :
    Network.Hosts cancelledPause ⟨0⟩ fun events event => event ∈ events where
  listens q x event := by
    unfold cancelledPause
    split
    · intro htells
      rcases List.mem_cons.mp htells with rfl | hbefore
      · exact .inr rfl
      · exact .inl hbefore
    · exact fun htells => .inl (List.mem_of_mem_filter htells)
    · exact .inl
    · exact .inl
    · exact .inl
  removes event x _ := by simp [cancelledPause]
  attached q x := by
    unfold cancelledPause
    split
    · rfl
    · rfl
    · dsimp only
      split
      · simp [State.noteRequest, Network.Monitor.note]
      · rfl
    · rfl
    · rfl
  quiet q x hlistens hsilent := by
    unfold cancelledPause
    split
    · rfl
    · rfl
    · dsimp only
      rw [if_neg (hsilent .started)]
    · rfl
    · rfl

theorem alone_cancelledPause (taskId : String) : Alone cancelledPause taskId := by
  have hboard : ∀ q x, (cancelledPause q x).2.2.board = x.2.board := by
    intro q x
    unfold cancelledPause
    split
    · rfl
    · rfl
    · dsimp only
      split <;> rfl
    · rfl
    · rfl
  constructor <;> intro q x <;> rw [hboard] <;> exact id

theorem plain_service (s : Service)
    (hpauses : ∀ c ∈ s.coordinator, c.channel = Progress.busChannel) : s.runner.Plain where
  acquire := ⟨s.session, rfl⟩
  release := rfl
  channel := Progress.plain_busChannel
  pauses c hc := by
    rw [hpauses c hc]
    exact Progress.plain_busChannel

theorem execute_handsBack_cancelledPause : ∃ calls y,
    (sampleService.runner.execute sampleWorkflow sampleContext).Runs cancelledPause ([], {}) calls
        (.error .cancelled) y ∧
      calls.filterMap Ask.closing? = [⟨0⟩] ∧ (y.2.monitor ⟨0⟩).inflight = [] ∧
      y.2.board.handle? "t" = none := by
  let ended :=
    ((sampleService.runner.execute sampleWorkflow sampleContext).run cancelledPause ([], {})).1
  have hcancelled : ended = .error .cancelled :=
    not_not.mp (show ¬ Uncancelled ended by decide +kernel)
  have hruns : (sampleService.runner.execute sampleWorkflow sampleContext).Runs cancelledPause
      ([], {}) _ ended _ := runs_run cancelledPause _ _
  rw [hcancelled] at hruns
  have hplain : sampleService.runner.Plain := by
    refine plain_service _ fun c hc => ?_
    cases hc
    rfl
  have hundisturbed : Undisturbed cancelledPause ⟨0⟩ :=
    ⟨fun _ _ => uncancelled_ok _, fun _ => uncancelled_ok _, fun _ => uncancelled_ok _⟩
  have hacquire : sampleService.runner.acquire.Runs cancelledPause ([], {}) _ (.ok ⟨0⟩) _ :=
    runs_of_toOption (by decide +kernel)
  have hprepare : (prepare ⟨"t", ⟨0⟩, 1⟩).Runs cancelledPause
      (sampleService.runner.acquire.run cancelledPause ([], {})).2 _ (.ok ()) _ :=
    runs_of_toOption (by decide +kernel)
  obtain ⟨_, _, _, _, _, _, _, -, -, -, -, hclosed, hquiet, hunpaused⟩ :=
    execute_handsBack hplain hosts_cancelledPause hundisturbed (alone_cancelledPause "t")
      Pause.Board.sound_empty hruns hacquire hprepare
  exact ⟨_, _, hruns, hclosed, hquiet rfl, hunpaused rfl⟩

end Runner
end Pageflow
