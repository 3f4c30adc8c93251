import Pageflow.Proofs.Network.Idle
import Pageflow.Proofs.Pause.Board
import Pageflow.Session.Manager
import Pageflow.Workflow.Run

/-! What the steps of a run ask and change. The work on a page changes nothing that activities
share and never opens or closes a page; telling of a task changes the sinks, and a pause the board
besides. -/
namespace Pageflow

open Browser Program

/-- Calls about a page as a whole: how long it waits, whom it tells, and its end. -/
def Browser.PageCall.Manages : PageCall → Prop
  | .close | .setTimeout _ | .setNavigationTimeout _ | .listen _ | .unlisten _ => True
  | _ => False

/-- Calls that act on what a page shows: an address is opened, or an element clicked. -/
def Browser.PageCall.acts : PageCall → Bool
  | .goto _ _ | .click _ _ => true
  | _ => false

def Ask.acts : Ask → Bool
  | .page _ call => call.acts
  | _ => false

/-- The questions of the work on a page. -/
def Ask.Works : Ask → Prop
  | .elapsed | .wall | .sleep _ | .element _ _ | .upload _ _ => True
  | .page _ call => ¬ call.Manages
  | _ => False

/-- The questions of the work on a page that leaves it where it is. -/
def Ask.Looks (q : Ask) : Prop := q.Works ∧ q.acts = false

/-- The questions of a look for challenges. -/
def Ask.Inspects : Ask → Prop
  | .page _ .isClosed | .page _ (.candidates _) | .page _ .url => True
  | _ => False

/-- The questions of telling of a task. -/
def Ask.Tells : Ask → Prop
  | .now | .post _ _ | .send _ _ | .start _ => True
  | _ => False

/-- The questions of a pause. -/
def Ask.Pauses : Ask → Prop
  | .await (.settled _) _ | .pass => True
  | q => q.Tells

/-- The questions of the work proper on a page that leaves it where it is: no look for challenges
is among them. -/
def Ask.Views (q : Ask) : Prop := q.Looks ∧ ¬ q.Inspects

/-- The hint under which a question stores something. -/
def Ask.hint? : Ask → Option String
  | .upload _ hint => some hint
  | _ => none

/-- The questions of the work proper on a page that stores nothing. -/
def Ask.Reads (q : Ask) : Prop := q.Views ∧ q.hint? = none

theorem Ask.Inspects.looks {q : Ask} (h : q.Inspects) : q.Looks := by
  cases q with
  | page page call =>
    cases call with
    | isClosed | candidates | url => exact ⟨id, rfl⟩
    | _ => cases h
  | _ => cases h

theorem Ask.Tells.pauses {q : Ask} (h : q.Tells) : q.Pauses := by
  cases q with
  | now | post | send | start => exact h
  | _ => cases h

theorem Ask.Inspects.hint?_eq_none {q : Ask} (h : q.Inspects) : q.hint? = none := by
  cases q with
  | page => rfl
  | _ => cases h

theorem Ask.Pauses.hint?_eq_none {q : Ask} (h : q.Pauses) : q.hint? = none := by
  cases q with
  | upload => cases h
  | _ => rfl

/-- The questions of a run between getting its page and handing it back. -/
def Ask.Runs (q : Ask) : Prop := q.Works ∨ q.Pauses

/-- Only the sinks and who is being asked at the terminal have changed. -/
def Told (s s' : State) : Prop := ∃ bus prompting, s' = { s with bus, prompting }

/-- Besides what telling changes, the board may have, and is sound if it was. -/
def Paused (s s' : State) : Prop :=
  ∃ board bus prompting, s' = { s with board, bus, prompting } ∧ (s.board.Sound → board.Sound)

theorem Told.paused {s s' : State} (h : Told s s') : Paused s s' := by
  obtain ⟨bus, prompting, rfl⟩ := h
  exact ⟨s.board, bus, prompting, rfl, id⟩

/-- Work on a page: it asks nothing else and changes nothing at all. -/
abbrev Activity.Works {α : Type} (p : Activity α) : Prop := p.Confined Ask.Works fun _ _ => False

/-- Work that neither opens an address nor clicks. -/
abbrev Activity.Looks {α : Type} (p : Activity α) : Prop := p.Confined Ask.Looks fun _ _ => False

/-- Work that neither opens an address nor clicks nor looks for challenges. -/
abbrev Activity.Views {α : Type} (p : Activity α) : Prop := p.Confined Ask.Views fun _ _ => False

/-- Work of that kind that stores nothing. -/
abbrev Activity.Reads {α : Type} (p : Activity α) : Prop := p.Confined Ask.Reads fun _ _ => False

section

variable {α : Type} {asks : Ask → Prop} {writes : State → State → Prop}

theorem Activity.Works.confined {p : Activity α} (hp : p.Works) (hasks : ∀ q, q.Works → asks q) :
    p.Confined asks writes :=
  hp.mono hasks fun _ _ => False.elim

theorem Activity.Looks.works {p : Activity α} (hp : p.Looks) : p.Works :=
  hp.mono (fun _ hq => hq.1) fun _ _ => id

theorem Activity.Views.confined {p : Activity α} (hp : p.Views) (hasks : ∀ q, q.Views → asks q) :
    p.Confined asks writes :=
  hp.mono hasks fun _ _ => False.elim

theorem Activity.Views.works {p : Activity α} (hp : p.Views) : p.Works :=
  hp.confined fun _ hq => hq.1.1

theorem Activity.Reads.confined {p : Activity α} (hp : p.Reads) (hasks : ∀ q, q.Reads → asks q) :
    p.Confined asks writes :=
  hp.mono hasks fun _ _ => False.elim

theorem Activity.Reads.views {p : Activity α} (hp : p.Reads) : p.Views :=
  hp.confined fun _ hq => hq.1

end

theorem Browser.PageRef.works_call (page : PageRef) {c : PageCall} (hc : ¬ c.Manages) :
    Activity.Works (page.call c) :=
  confined_ask hc fun r => confined_ofResult r

theorem Browser.PageRef.reads_call (page : PageRef) {c : PageCall} (hc : ¬ c.Manages)
    (hacts : c.acts = false) (hinspects : ¬ (Ask.page page c).Inspects) :
    Activity.Reads (page.call c) :=
  confined_ask ⟨⟨⟨hc, hacts⟩, hinspects⟩, rfl⟩ fun r => confined_ofResult r

theorem Browser.ElementRef.reads_call (element : ElementRef) (c : ElementCall) :
    Activity.Reads (element.call c) :=
  confined_ask ⟨⟨⟨trivial, rfl⟩, id⟩, rfl⟩ fun r => confined_ofResult r

theorem Activity.reads_elapsed : Activity.elapsed.Reads :=
  confined_ask ⟨⟨⟨trivial, rfl⟩, id⟩, rfl⟩ fun _ => confined_done _

theorem Activity.reads_wall : Activity.wall.Reads :=
  confined_ask ⟨⟨⟨trivial, rfl⟩, id⟩, rfl⟩ fun _ => confined_done _

theorem Activity.reads_sleepMs (ms : Int) : (Activity.sleepMs ms).Reads := by
  unfold sleepMs
  split
  · exact confined_fail _
  · exact confined_ask ⟨⟨⟨trivial, rfl⟩, id⟩, rfl⟩ fun r => confined_ofResult r

theorem Browser.PageRef.reads_waitVisible (page : PageRef) (selector : String) (timeoutMs : Int) :
    Activity.Reads (page.waitVisible selector timeoutMs) := by
  refine (page.reads_call id rfl id).attempt.bind fun result => ?_
  split <;> simp

/-! ## Scrolling and capturing -/

namespace Capture

theorem reads_hover (page : PageRef) (selector : String) : (hover page selector).Reads := by
  refine (page.reads_call id rfl id).bind fun found => ?_
  cases found with
  | none => exact confined_done ()
  | some element =>
    refine (element.reads_call _).bind fun place => ?_
    cases place with
    | none => exact confined_done ()
    | some box => exact page.reads_call id rfl id

theorem reads_scrollRound (page : PageRef) (o : ScrollOptions) (s : Stillness) :
    (scrollRound page o s).Reads := by
  refine (page.reads_call id rfl id).bind fun picture => ?_
  refine confined_ite (confined_done _) ((page.reads_call id rfl id).bind ?_)
  intro _
  exact (Activity.reads_sleepMs _).bind fun _ => confined_done _

theorem reads_scrollRounds (page : PageRef) (o : ScrollOptions) (rounds : Nat) (s : Stillness)
    (left : Nat) : (scrollRounds page o rounds s left).Reads := by
  induction left generalizing rounds s with
  | zero => exact confined_done _
  | succ left ih =>
    have hround : Activity.Reads ((scrollRound page o s).rescue fun _ => pure none) :=
      (reads_scrollRound page o s).rescueIf fun _ => confined_done none
    refine hround.bind fun next => ?_
    cases next with
    | none => exact confined_done _
    | some s => exact ih (rounds + 1) s

theorem reads_scrollToBottom (page : PageRef) (selector : String) (o : ScrollOptions) :
    (scrollToBottom page selector o).Reads := by
  refine Confined.bind (Confined.rescueIf ?_ fun _ => confined_done _) fun parked => ?_
  · exact confined_ite ((reads_hover page selector).bind fun _ => confined_done _) (confined_done _)
  · exact confined_ite (reads_scrollRounds page o 0 _ _) (confined_done _)

theorem reads_measure (page : PageRef) (selector : String) : (measure page selector).Reads := by
  refine (page.reads_call id rfl id).bind fun metrics => ?_
  cases metrics with
  | none => exact confined_fail _
  | some m => exact confined_done _

end Capture

theorem Network.reads_waitForIdle (page : PageRef) (q : Quiet) : (waitForIdle page q).Reads :=
  confined_waitForIdle ⟨⟨⟨trivial, rfl⟩, id⟩, rfl⟩ (fun _ => ⟨⟨⟨trivial, rfl⟩, id⟩, rfl⟩) page q

namespace Capture

theorem reads_settle (page : PageRef) (o : LongOptions) : (settle page o).Reads :=
  confined_ite ((Network.reads_waitForIdle page _).rescueIf fun _ => confined_done _)
    (confined_done _)

theorem reads_captureTile (page : PageRef) (o : LongOptions) (element : ElementRef)
    (selector : String) : (captureTile page o element selector).Reads := by
  refine (element.reads_call _).bind fun tile => (reads_measure page selector).bind fun before => ?_
  refine (page.reads_call id rfl id).bind fun _ => ?_
  exact (reads_settle page o).bind fun _ => (reads_measure page selector).bind fun _ =>
    confined_done _

theorem reads_captureTiles (page : PageRef) (o : LongOptions) (element : ElementRef)
    (selector : String) (left : Nat) : (captureTiles page o element selector left).Reads := by
  induction left with
  | zero => exact (reads_captureTile page o element selector).bind fun _ => confined_done _
  | succ left ih =>
    refine (reads_captureTile page o element selector).bind fun ⟨tile, moved⟩ => ?_
    exact confined_ite (ih.bind fun _ => confined_done _) (confined_done _)

theorem reads_captureLong (page : PageRef) (o : LongOptions) (selector : String) :
    (captureLong page o selector).Reads := by
  refine (page.reads_waitVisible _ _).bind fun element => ?_
  refine (reads_measure page selector).bind fun first => confined_ite (element.reads_call _) ?_
  refine (reads_captureTiles page o element selector _).bind fun tiles => ?_
  refine (reads_measure page selector).bind fun last => ?_
  exact (confined_ofResult _).bind fun _ => confined_done _

end Capture

/-! ## Extracting, looking for challenges and storing -/

theorem reads_extract (page : PageRef) (timeoutMs : Int) (e : Expression) :
    (extract page timeoutMs e).Reads := by
  refine Confined.rescueIf ?_ fun _ => confined_done _
  cases e with
  | direct selector =>
    refine confined_ite (confined_done _) ?_
    refine (page.reads_call id rfl id).attempt.bind fun result => ?_
    split
    · exact (ElementRef.reads_call _ _).bind fun _ => confined_done _
    · exact confined_done _
    · exact confined_done _
    · exact confined_fail _
  | nextSibling anchor child =>
    exact (page.reads_call id rfl id).bind fun _ => confined_done _
  | ancestor anchor child =>
    exact (page.reads_call id rfl id).bind fun _ => confined_done _

/-- A look for challenges asks no more than that of the page. -/
theorem Challenge.Detector.confined_inspect (d : Detector) (page : Option PageRef) :
    (d.inspect page).Confined Ask.Inspects fun _ _ => False := by
  cases page with
  | none => exact confined_done _
  | some page =>
    have hcall : ∀ c : PageCall, (Ask.page page c).Inspects →
        (page.call c).Confined Ask.Inspects fun _ _ => False :=
      fun _ hc => confined_ask hc fun r => confined_ofResult r
    have hask : (d.ask page).Confined Ask.Inspects fun _ _ => False := by
      refine Confined.rescueIf ?_ fun _ => confined_done _
      exact (hcall (.candidates _) trivial).bind fun _ => (hcall .url trivial).bind fun _ =>
        confined_done _
    refine (hcall .isClosed trivial).bind fun closed => ?_
    refine confined_ite (confined_done _) (confined_ite (confined_done _) (hask.bind ?_))
    rintro (_ | ⟨listed, url⟩)
    · exact confined_done _
    · exact (confined_ofResult _).bind fun _ => confined_done _

theorem Challenge.Detector.looks_inspect (d : Detector) (page : Option PageRef) :
    (d.inspect page).Looks :=
  (d.confined_inspect page).mono (fun _ => Ask.Inspects.looks) fun _ _ => id

namespace Runner

variable {r : Runner} {run : Run} {index : Nat}

theorem reads_picture (selector : String) (stitched : Bool) :
    (r.picture run selector stitched).Reads := by
  refine confined_ite (confined_ite (confined_fail _) (Capture.reads_captureLong _ _ _)) ?_
  refine confined_ite ?_ ?_
  · exact (Capture.reads_scrollToBottom _ _ _).bind fun _ =>
      run.page.reads_call id rfl id
  · exact (run.page.reads_waitVisible _ _).bind fun element => element.reads_call _

theorem reads_fillSources (sources : List Source) (text : String) :
    (r.fillSources run sources text).Reads := by
  induction sources generalizing text with
  | nil => exact confined_done _
  | cons source rest ih =>
    refine (reads_extract _ _ _).bind fun extraction => ?_
    cases extraction with
    | value found => exact ih _
    | miss reason => exact (ih _).bind fun _ => confined_done _

/-- What is stored is a picture of the task. -/
def Files (r : Runner) (taskId : String) (q : Ask) : Prop :=
  ∀ hint ∈ q.hint?, ∃ name, hint = storageHint r.settings.storage.keyPrefix taskId name

/-- The questions of a step of a task that stays where it is. -/
def Shoots (r : Runner) (taskId : String) (q : Ask) : Prop := q.Views ∧ r.Files taskId q

/-- The questions of the steps of a task. -/
def Pursues (r : Runner) (taskId : String) (q : Ask) : Prop := q.Runs ∧ r.Files taskId q

theorem files_of_none {taskId : String} {q : Ask} (h : q.hint? = none) : r.Files taskId q := by
  simp [Files, h]

theorem shoots_reads {α : Type} {taskId : String} {p : Activity α} (hp : p.Reads) :
    p.Confined (r.Shoots taskId) fun _ _ => False :=
  hp.confined fun _ hq => ⟨hq.1, files_of_none hq.2⟩

theorem shoots_store (name saved : String) (data : Capture.Picture) :
    (store name data (storageHint r.settings.storage.keyPrefix run.taskId saved)).Confined
      (r.Shoots run.taskId) fun _ _ => False := by
  refine Confined.rescueIf ?_ fun _ => confined_fail _
  have hfiles : r.Files run.taskId
      (.upload data (storageHint r.settings.storage.keyPrefix run.taskId saved)) :=
    fun hint hhint => ⟨saved, (Option.some.inj hhint).symm⟩
  exact confined_ask ⟨⟨⟨trivial, rfl⟩, id⟩, hfiles⟩ fun r => confined_ofResult r

theorem shoots_screenshot (selector : String) (stitched : Bool) (saveAs : String) (g : Gathered) :
    (r.screenshot run selector stitched saveAs g).Confined (r.Shoots run.taskId)
      fun _ _ => False := by
  have hnamed : ∀ name, ((r.picture run selector stitched).bind fun data =>
      (store name data (storageHint r.settings.storage.keyPrefix run.taskId name)).bind fun url =>
        .done (Outcome.ok url, g.addScreenshot ⟨name, url⟩)).Confined (r.Shoots run.taskId)
          fun _ _ => False := fun name =>
    (shoots_reads (reads_picture selector stitched)).bind fun _ =>
      (shoots_store _ _ _).bind fun _ => confined_done _
  unfold screenshot
  dsimp only
  exact confined_ite
    (((shoots_reads Activity.reads_wall).bind fun _ => confined_done _).bind hnamed) (hnamed saveAs)

/-- Every step but those that open an address or click works on the page and no more. -/
theorem shoots_perform (g : Gathered) {action : Action}
    (hnavigate : ∀ url ready, action ≠ .navigate url ready)
    (hclick : ∀ selector, action ≠ .click selector) :
    (r.perform run index g action).Confined (r.Shoots run.taskId) fun _ _ => False := by
  cases action with
  | navigate url ready => exact absurd rfl (hnavigate url ready)
  | click selector => exact absurd rfl (hclick selector)
  | wait ms => exact shoots_reads ((Activity.reads_sleepMs _).bind fun _ => confined_done _)
  | waitForSelector selector =>
    exact shoots_reads ((run.page.reads_waitVisible _ _).bind fun _ => confined_done _)
  | screenshot selector stitched saveAs => exact shoots_screenshot selector stitched saveAs g
  | scrollPage selector =>
    exact shoots_reads ((Capture.reads_scrollToBottom _ _ _).bind fun _ => confined_done _)
  | waitForNetworkIdle idleMs timeoutMs _ =>
    exact shoots_reads ((Network.reads_waitForIdle _ _).bind fun _ => confined_done _)
  | extractData selector dataName =>
    exact shoots_reads ((reads_extract _ _ _).bind fun _ => confined_done _)
  | compositeExtract template sources dataName =>
    exact shoots_reads ((reads_fillSources sources template).bind fun _ => confined_done _)

theorem views_perform (g : Gathered) {action : Action}
    (hnavigate : ∀ url ready, action ≠ .navigate url ready)
    (hclick : ∀ selector, action ≠ .click selector) : (r.perform run index g action).Views :=
  (shoots_perform g hnavigate hclick).mono (fun _ hq => hq.1) fun _ _ => id

end Runner

/-! ## Telling and pausing -/

namespace Progress

/-- Who tells something on the channel does nothing else. -/
def Channel.Plain (channel : Channel) : Prop :=
  ∀ tell ∈ channel, ∀ taskId e, (tell taskId e).Confined Ask.Tells Told

theorem confined_deliver (e : Event) (sink : SinkId) :
    (deliver e sink).Confined Ask.Tells Told := by
  have hbus : ∀ f : State → Bus,
      (Program.modify fun s : State => { s with bus := f s } : Activity Unit).Confined
        Ask.Tells Told := fun f => confined_modify fun s => ⟨f s, s.prompting, rfl⟩
  refine confined_read fun s => ?_
  simp only [Program.bind]
  split
  · exact confined_ask trivial fun r => confined_ofResult r
  · refine Confined.rescueIf ?_ fun _ => hbus _
    exact confined_ask trivial fun r => confined_ofResult r
  · exact confined_done ()
  · refine confined_ite ?_ (confined_done ())
    have hprompt : ∀ s : State, Told s { s with prompting := true } := fun s => ⟨s.bus, true, rfl⟩
    exact (confined_modify hprompt).bind fun _ => confined_ask trivial fun _ => confined_done ()
  · exact confined_fail _
  · exact hbus _
  · exact confined_done ()

theorem confined_publish (taskId : String) (e : Event) :
    (publish taskId e).Confined Ask.Tells Told := by
  refine confined_read fun s => ?_
  change (deliverAll _ (s.bus.audience taskId)).Confined Ask.Tells Told
  induction s.bus.audience taskId with
  | nil => exact confined_done ()
  | cons sink rest ih => exact (confined_deliver _ sink).ignore.bind fun _ => ih

theorem plain_busChannel : busChannel.Plain := by
  intro tell htell
  cases htell
  exact confined_publish

theorem confined_announce {channel : Channel} (h : channel.Plain) (taskId : String)
    (status : Status) (stepIndex totalSteps : Int) (message : String) :
    (announce channel taskId status stepIndex totalSteps message).Confined Ask.Tells Told := by
  cases channel with
  | none => exact confined_done ()
  | some tell =>
    refine Confined.bind ?_ fun time => (h tell rfl taskId _).ignore
    exact (confined_ask trivial fun _ => confined_done _).bind fun _ => confined_done _

end Progress

namespace Pause

theorem paused_board {f : Board → Board} (h : ∀ b : Board, b.Sound → (f b).Sound) (s : State) :
    Paused s { s with board := f s.board } :=
  ⟨f s.board, s.bus, s.prompting, rfl, h s.board⟩

theorem confined_changeBoard {f : Board → Board} (h : ∀ b : Board, b.Sound → (f b).Sound) :
    (changeBoard f).Confined Ask.Pauses Paused :=
  confined_modify fun s => paused_board h s

theorem confined_withdraw (signal : Nat) : (withdraw signal).Confined Ask.Pauses Paused :=
  (confined_changeBoard fun _ hb => hb.settle signal .withdrawn).bind fun _ =>
    confined_ask trivial fun r => confined_ofResult r

namespace Coordinator

variable {c : Coordinator}

theorem confined_awaitSignal (h : Handle) : (c.awaitSignal h).Confined Ask.Pauses Paused := by
  refine confined_ask trivial fun reply => confined_read fun s => ?_
  simp only [Program.bind]
  split
  · exact confined_done ()
  · exact confined_fail _
  · exact (confined_withdraw _).bind fun _ => confined_fail _
  · exact (confined_withdraw _).bind fun _ => confined_fail _

theorem confined_pause (hc : c.channel.Plain) (taskId : String) (page : Option PageRef)
    (stepIndex totalSteps : Int) :
    (c.pause taskId page stepIndex totalSteps).Confined Ask.Pauses Paused := by
  unfold pause Program.state
  intro s
  simp only [Program.bind_eq_bind, Program.bind, Within]
  split
  · trivial
  · rename_i h board hbegin
    -- the new board is written in the state it was computed from
    refine ⟨⟨board, s.bus, s.prompting, rfl, fun hb => hb.begin? hbegin⟩, ?_⟩
    have htell := (Progress.confined_announce hc taskId .paused stepIndex totalSteps
      "Verification challenge detected; waiting for an operator to resolve it").mono
      (fun _ => Ask.Tells.pauses) fun _ _ => Told.paused
    have hrest := htell.bind fun _ => (confined_awaitSignal (c := c) h).ensure
      (confined_changeBoard fun b hb => hb.remove h)
    exact hrest _

end Coordinator
end Pause

/-! ## Steps -/

namespace Runner

/-- A runner as services have it: the session opens its pages and takes them back, and its
channels only tell. -/
structure Plain (r : Runner) : Prop where
  acquire : ∃ o, r.acquire = Session.acquire o
  release : r.release = Session.release
  channel : r.channel.Plain
  pauses : ∀ c ∈ r.coordinator, c.channel.Plain

variable {r : Runner} {run : Run} {index : Nat}

theorem pursues_reads {α : Type} {p : Activity α} (hp : p.Reads) :
    p.Confined (r.Pursues run.taskId) Paused :=
  hp.confined fun _ hq => ⟨.inl hq.1.1.1, files_of_none hq.2⟩

section

variable (hr : r.Plain)
include hr

theorem pursues_checkpoint :
    (r.checkpoint run index).Confined (r.Pursues run.taskId) Paused := by
  unfold checkpoint
  split
  · exact confined_done _
  · rename_i c hc
    have hclock : Activity.elapsed.Confined (r.Pursues run.taskId) Paused :=
      pursues_reads Activity.reads_elapsed
    have hpause : (c.pause run.taskId (some run.page) index run.totalSteps).Confined
        (r.Pursues run.taskId) Paused :=
      (Pause.Coordinator.confined_pause (hr.pauses c hc) _ _ _ _).mono
        (fun _ hq => ⟨.inr hq, files_of_none hq.hint?_eq_none⟩) fun _ _ => id
    have hinspect : (c.detector.inspect (some run.page)).Confined (r.Pursues run.taskId) Paused :=
      (c.detector.confined_inspect _).mono
        (fun _ hq => ⟨.inl hq.looks.1, files_of_none hq.hint?_eq_none⟩) fun _ _ => False.elim
    have hcheck : (c.checkpoint run.taskId (some run.page) index run.totalSteps).Confined
        (r.Pursues run.taskId) Paused :=
      hinspect.bind fun d => confined_ite (hpause.bind fun _ => confined_done _) (confined_done _)
    refine hclock.bind fun start => hcheck.bind fun paused => ?_
    exact confined_ite (hclock.bind fun _ => confined_done _) (confined_done _)

theorem pursues_waitThroughPause (selector : String) (timeoutMs : Int) :
    (r.waitThroughPause run index selector timeoutMs).Confined (r.Pursues run.taskId) Paused := by
  have hwait : (run.page.waitVisible selector timeoutMs).Confined (r.Pursues run.taskId) Paused :=
    pursues_reads (run.page.reads_waitVisible selector timeoutMs)
  refine hwait.attempt.bind fun result => ?_
  split
  · exact confined_done _
  · refine (pursues_checkpoint hr).bind fun paused => ?_
    cases paused with
    | none => exact confined_fail _
    | some seconds => exact hwait.bind fun _ => confined_done _
  · exact confined_fail _

theorem pursues_perform (g : Gathered) (action : Action) :
    (r.perform run index g action).Confined (r.Pursues run.taskId) Paused := by
  have hcall : ∀ {c : PageCall}, ¬ c.Manages →
      (run.page.call c).Confined (r.Pursues run.taskId) Paused :=
    fun hc => confined_ask ⟨.inl hc, files_of_none rfl⟩ fun r => confined_ofResult r
  cases action with
  | navigate url ready =>
    refine (hcall id).bind fun _ => (pursues_checkpoint hr).bind fun _ => ?_
    dsimp only
    generalize (if ready.isEmpty then r.settings.runner.readySelector else ready) = marker
    refine confined_ite (confined_done _) ?_
    exact ((pursues_waitThroughPause hr _ _).rescueIf fun _ => confined_fail _).bind fun _ =>
      confined_done _
  | click selector =>
    refine (pursues_waitThroughPause hr _ _).bind fun _ => (hcall id).bind fun _ => ?_
    exact (pursues_checkpoint hr).bind fun _ => confined_done _
  | _ =>
    exact (shoots_perform g (by simp) (by simp)).mono (fun _ hq => ⟨.inl hq.1.1.1, hq.2⟩)
      fun _ _ => False.elim

theorem pursues_performSteps (start : Double) (g : Gathered) (steps : List Step) :
    (r.performSteps run start index g steps).Confined (r.Pursues run.taskId) Paused := by
  induction steps generalizing index g with
  | nil => exact confined_done _
  | cons step rest ih =>
    have hclock : Activity.elapsed.Confined (r.Pursues run.taskId) Paused :=
      pursues_reads Activity.reads_elapsed
    have htell : ∀ status position message,
        (r.announce run status position message).Confined (r.Pursues run.taskId) Paused :=
      fun status position message => (Progress.confined_announce hr.channel _ status position _
        message).mono (fun _ hq => ⟨.inr hq.pauses, files_of_none hq.pauses.hint?_eq_none⟩)
          fun _ _ => Told.paused
    have hstep : (r.performStep run index step g).Confined (r.Pursues run.taskId) Paused :=
      (pursues_perform hr g step.action).rescueIf fun _ => confined_done _
    refine hclock.bind fun now => confined_ite (confined_done _) ?_
    refine (htell _ _ _).bind fun _ => hstep.bind fun ⟨outcome, g⟩ => ?_
    cases outcome with
    | fatal failure => exact confined_done _
    | ok | recovered => exact ih _

theorem confined_performSteps (start : Double) (g : Gathered) (steps : List Step) :
    (r.performSteps run start index g steps).Confined Ask.Runs Paused :=
  (pursues_performSteps hr start g steps).mono (fun _ hq => hq.1) fun _ _ => id

end

end Runner
end Pageflow
