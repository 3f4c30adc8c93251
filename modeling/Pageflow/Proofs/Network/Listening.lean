import Pageflow.Network.Idle
import Pageflow.Proofs.Activity.Calm
import Pageflow.Proofs.Activity.Confined

/-! Listening to a page and leaving it. A page that is left is asked to remove each listener, and
its monitor knows of no request after that. -/
namespace Pageflow.Network

open Browser Program

variable {W : Type}

/-- A page as the run that owns it sees it: `tells` are the events it tells of. Nobody else attaches
or detaches its monitor. -/
structure Hosts (env : Responses State Ask Ask.Reply W) (page : PageRef)
    (tells : W → RequestEvent → Prop) : Prop where
  listens : ∀ q x event, tells (env q x).2.1 event →
    tells x.1 event ∨ q = .page page (.listen event)
  removes : ∀ event x, (env (.page page (.unlisten event)) x).1 = .ok () →
    ¬ tells (env (.page page (.unlisten event)) x).2.1 event
  attached : ∀ q x, ((env q x).2.2.monitor page).attached = (x.2.monitor page).attached
  quiet : ∀ q x, (∀ event, q ≠ .page page (.listen event)) → (∀ event, ¬ tells x.1 event) →
    (env q x).2.2.monitor page = x.2.monitor page

/-- The events whose listeners the page refuses to remove, asked for one after the other. -/
def refusals (env : Responses State Ask Ask.Reply W) (page : PageRef) :
    List RequestEvent → W × State → List RequestEvent
  | [], _ => []
  | event :: rest, x =>
    match env (.page page (.unlisten event)) x with
    | (.ok _, y) => refusals env page rest y
    | (.error _, y) => event :: refusals env page rest y

variable {env : Responses State Ask Ask.Reply W} {page : PageRef}
  {tells : W → RequestEvent → Prop} {x y : W × State} {calls : List Ask} {result : Result Unit}

@[simp] theorem monitor_setMonitor (s : State) (page : PageRef) (m : Monitor) :
    (s.setMonitor page m).monitor page = m := by
  simp [State.setMonitor, State.monitor]

theorem attached_of_attach (h : (attach page).Runs env x calls (.ok ()) y) :
    (y.2.monitor page).attached = true := by
  have hread := runs_read.mp h
  by_cases hattached : (x.2.monitor page).attached = true
  · simp only [Program.bind, hattached] at hread
    obtain ⟨-, -, rfl⟩ := runs_done.mp hread
    exact hattached
  · simp only [Program.bind, hattached] at hread
    obtain ⟨_, _, _, _, -, -, htimed⟩ := runs_bind_ok.mp hread
    obtain ⟨_, _, _, _, -, -, hset⟩ := runs_bind_ok.mp htimed
    obtain ⟨-, -, rfl⟩ := runs_modify.mp hset
    simp

/-- A page does not begin to tell of what it is not asked for. -/
theorem Hosts.silent {α : Type} {asks : Ask → Prop} {writes : State → State → Prop}
    {p : Activity α} {result : Result α} (hhosts : Hosts env page tells)
    (hp : p.Confined asks writes) (hruns : p.Runs env x calls result y) {event : RequestEvent}
    (hasks : ∀ q, asks q → q ≠ .page page (.listen event)) (hsilent : ¬ tells x.1 event) :
    ¬ tells y.1 event := by
  refine hp.holds (I := fun x => ¬ tells x.1 event) hruns (fun _ _ _ _ h => h) ?_ hsilent
  intro q x hq hsilent htells
  rcases hhosts.listens q x event htells with hbefore | hlisten
  · exact hsilent hbefore
  · exact hasks q hq hlisten

/-- A page that is told nothing of leaves its monitor as it is. -/
theorem Hosts.still {α : Type} {asks : Ask → Prop} {writes : State → State → Prop}
    {p : Activity α} {result : Result α} (hhosts : Hosts env page tells)
    (hp : p.Confined asks writes) (hruns : p.Runs env x calls result y)
    (hasks : ∀ q, asks q → ∀ event, q ≠ .page page (.listen event))
    (hwrites : ∀ s s', writes s s' → s'.monitor page = s.monitor page)
    (hsilent : ∀ event, ¬ tells x.1 event) : y.2.monitor page = x.2.monitor page := by
  let I : W × State → Prop := fun z =>
    (∀ event, ¬ tells z.1 event) ∧ z.2.monitor page = x.2.monitor page
  have hend : I y := by
    refine hp.holds hruns (fun w s s' hs hI => ?_) (fun q z hq hI => ?_) ⟨hsilent, rfl⟩
    · exact ⟨hI.1, (hwrites s s' hs).trans hI.2⟩
    · refine ⟨fun event htells => ?_, (hhosts.quiet q z (hasks q hq) hI.1).trans hI.2⟩
      rcases hhosts.listens q z event htells with hbefore | hlisten
      · exact hI.1 event hbefore
      · exact hasks q hq event hlisten
  exact hend.2

/-! ## Leaving a page -/

/-- Whether a question asks a page to remove a listener. -/
def unlistens (page : PageRef) (q : Ask) : Prop := ∃ event, q = .page page (.unlisten event)

theorem confined_unlistenAll {writes : State → State → Prop} (events : List RequestEvent) :
    (unlistenAll page events).Confined (unlistens page) writes := by
  induction events with
  | nil => exact confined_done ()
  | cons event rest ih =>
    have hcall : (page.call (.unlisten event)).Confined (unlistens page) writes :=
      confined_ask ⟨event, rfl⟩ fun r => confined_ofResult r
    exact hcall.ignore.bind fun _ => ih

/-- Removal is asked for in any case, whatever the page answers. -/
theorem unlisten_runs
    (hspares : ∀ event x, Uncancelled (env (.page page (.unlisten event)) x).1)
    {event : RequestEvent} (h : (page.call (.unlisten event)).ignore.Runs env x calls result y) :
    calls = [.page page (.unlisten event)] ∧ result = .ok () ∧
      y = (env (.page page (.unlisten event)) x).2 := by
  obtain ⟨answer, hcall, hok⟩ := runs_of_ignore h
  obtain ⟨_, rfl, hanswer⟩ := runs_ask.mp hcall
  obtain ⟨rfl, rfl, rfl⟩ := runs_ofResult.mp hanswer
  exact ⟨rfl, hok (hspares event x), rfl⟩

theorem unlistenAll_runs (hhosts : Hosts env page tells)
    (hspares : ∀ event x, Uncancelled (env (.page page (.unlisten event)) x).1)
    {events : List RequestEvent} (h : (unlistenAll page events).Runs env x calls result y) :
    result = .ok () ∧ calls = events.map (fun event => .page page (.unlisten event)) ∧
      ∀ event ∈ events, tells y.1 event → event ∈ refusals env page events x := by
  induction events generalizing x calls with
  | nil =>
    obtain ⟨rfl, rfl, rfl⟩ := runs_done.mp h
    simp
  | cons event rest ih =>
    rcases runs_bind.mp h with ⟨_, first, later, z, rfl, hfirst, hrest⟩ | ⟨_, rfl, hfirst⟩
    · obtain ⟨rfl, -, hz⟩ := unlisten_runs hspares hfirst
      obtain ⟨rfl, rfl, hleft⟩ := ih hrest
      refine ⟨rfl, rfl, fun event' hmem htells => ?_⟩
      have hremoves := hhosts.removes event x
      rw [← hz] at hremoves
      unfold refusals
      rcases hreply : env (.page page (.unlisten event)) x with ⟨fault | value, z'⟩
      · obtain rfl : z = z' := by rw [hz, hreply]
        rcases List.mem_cons.mp hmem with rfl | hlater
        · exact List.mem_cons_self
        · exact List.mem_cons_of_mem _ (hleft event' hlater htells)
      · obtain rfl : z = z' := by rw [hz, hreply]
        rcases List.mem_cons.mp hmem with rfl | hlater
        · -- a listener that was removed does not come back while the others are
          have hsilent := hremoves (by rw [hreply])
          have hasks : ∀ q, unlistens page q → q ≠ .page page (.listen event') := by
            rintro _ ⟨_, rfl⟩ hlisten
            cases hlisten
          have hrests : (unlistenAll page rest).Confined (unlistens page) fun _ _ => False :=
            confined_unlistenAll rest
          exact absurd htells (hhosts.silent hrests hrest hasks hsilent)
        · exact hleft event' hlater htells
    · cases (unlisten_runs hspares hfirst).2.1

/-- Leaving a page, only its monitor is written to. -/
theorem confined_detach (page : PageRef) :
    (detach page).Confined (unlistens page) fun s s' => s'.board = s.board := by
  refine confined_read fun s => confined_ite ?_ (confined_done _)
  exact (confined_unlistenAll _).bind fun _ => confined_modify fun _ => rfl

/-- A page that was left: its monitor has nothing under way, and it tells of no event but those
whose listeners, asked from `x` on, it refused to remove. -/
structure Unwatched (env : Responses State Ask Ask.Reply W) (page : PageRef)
    (tells : W → RequestEvent → Prop) (x y : W × State) : Prop where
  attached : (y.2.monitor page).attached = false
  inflight : (y.2.monitor page).inflight = []
  listeners : ∀ event, tells y.1 event → event ∈ refusals env page RequestEvent.all x

theorem detach_runs (hhosts : Hosts env page tells)
    (hspares : ∀ event x, Uncancelled (env (.page page (.unlisten event)) x).1)
    (hattached : (x.2.monitor page).attached = true)
    (h : (detach page).Runs env x calls result y) :
    result = .ok () ∧ calls = RequestEvent.all.map (fun event => .page page (.unlisten event)) ∧
      Unwatched env page tells x y := by
  have hread := runs_read.mp h
  simp only [Program.bind, hattached, ↓reduceIte] at hread
  rcases runs_bind.mp hread with ⟨_, first, later, z, rfl, hleave, hset⟩ | ⟨_, rfl, hleave⟩
  · obtain ⟨-, rfl, hleft⟩ := unlistenAll_runs hhosts hspares hleave
    obtain ⟨rfl, rfl, rfl⟩ := runs_modify.mp hset
    refine ⟨rfl, List.append_nil _, by simp, by simp, fun event htells => ?_⟩
    exact hleft event (by cases event <;> decide) htells
  · cases (unlistenAll_runs hhosts hspares hleave).1

end Pageflow.Network
