import Pageflow.Proofs.Activity.Calm
import Pageflow.Proofs.Activity.Confined
import Pageflow.Session.Manager

/-! Pages that the session opens and takes back. Opening a page closes none, and one that is given
back is closed once. -/
namespace Pageflow

open Browser Program

/-- The page that a question closes. -/
def Ask.closing? : Ask → Option PageRef
  | .page p .close => some p
  | _ => none

/-- What is asked to get a page, once the lock is held. -/
def Ask.Opens : Ask → Prop
  | .browser _ | .makeDirectory _ | .page _ (.setTimeout _) | .page _ (.setNavigationTimeout _) =>
    True
  | _ => False

/-- What is asked to get a page. -/
def Ask.Acquires (q : Ask) : Prop := (∃ ticket, q = .await (.turn ticket) none) ∨ q.Opens

/-- The board of paused tasks is not written to. -/
def KeepsBoard (s s' : State) : Prop := s'.board = s.board

theorem Ask.Acquires.closing?_eq_none {q : Ask} (h : q.Acquires) : q.closing? = none := by
  rcases h with ⟨ticket, rfl⟩ | hopens
  · rfl
  · cases q with
    | page page call =>
      cases call with
      | close => exact hopens.elim
      | _ => rfl
    | _ => rfl

namespace Session

theorem confined_browser (c : BrowserCall) : c.run.Confined Ask.Opens KeepsBoard :=
  confined_ask trivial fun r => confined_ofResult r

theorem confined_change (asks : Ask → Prop) (f : State → State) :
    (change f).Confined asks KeepsBoard :=
  confined_modify fun _ => rfl

theorem confined_start (o : Options) : (start o).Confined Ask.Opens KeepsBoard := by
  refine confined_read fun s => confined_ite ?_ (confined_browser _)
  exact (confined_browser _).bind fun _ => (confined_change _ _).bind fun _ => confined_browser _

theorem confined_launch (o : Options) : (launch o).Confined Ask.Opens KeepsBoard := by
  refine Confined.bind (confined_ask trivial fun r => confined_ofResult r) fun _ => ?_
  refine ((confined_start o).rescueIf fun _ => confined_fail _).bind fun context => ?_
  exact (confined_change _ _).bind fun _ => confined_done _

theorem confined_newPage (context : ContextRef) :
    (newPage context).Confined Ask.Opens KeepsBoard :=
  (confined_browser _).rescueIf fun _ => (confined_change _ _).bind fun _ => confined_fail _

/-- What becomes of a context that is launched or found in hand. -/
theorem confined_open (o : Options) (context : ContextRef) : (do
    let page ← newPage context
    page.call (.setTimeout o.timeoutMs)
    page.call (.setNavigationTimeout o.navigationTimeoutMs)
    return page).Confined Ask.Opens KeepsBoard := by
  refine (confined_newPage context).bind fun page => ?_
  refine Confined.bind (confined_ask trivial fun r => confined_ofResult r) fun _ => ?_
  exact Confined.bind (confined_ask trivial fun r => confined_ofResult r) fun _ => confined_done _

theorem confined_withLock {α : Type} {p : Activity α} (hp : p.Confined Ask.Opens KeepsBoard) :
    (withLock p).Confined Ask.Acquires KeepsBoard := by
  refine Confined.bind (confined_update fun s => ?_) fun ticket => ?_
  · rfl
  · refine Confined.ensure (Confined.bind ?_ fun _ => ?_) (confined_change _ _)
    · exact confined_ask (.inl ⟨ticket, rfl⟩) fun r => confined_ofResult r
    · exact hp.mono (fun _ => .inr) fun _ _ => id

/-- What is done with the lock held. -/
theorem confined_take (o : Options) : (do
    let s ← Program.state
    match s.session.context with
    | some context => pure context
    | none => launch o : Activity ContextRef).Confined Ask.Opens KeepsBoard := by
  refine confined_read fun s => ?_
  simp only [Program.bind]
  split
  · exact confined_done _
  · exact confined_launch o

/-- Getting a page asks no more than that and leaves the paused tasks alone. -/
theorem confined_acquire (o : Options) : (acquire o).Confined Ask.Acquires KeepsBoard :=
  (confined_withLock (confined_take o)).bind fun context =>
    (confined_open o context).mono (fun _ => .inr) fun _ _ => id

/-- A page is closed unless it is closed already or does not say. -/
theorem release_runs {W : Type} {env : Responses Pageflow.State Ask Ask.Reply W}
    {page : PageRef} {x y : W × Pageflow.State} {calls : List Ask} {result : Result Unit}
    (hasked : ∀ x, Uncancelled (env (.page page .isClosed) x).1)
    (hclosed : ∀ x, Uncancelled (env (.page page .close) x).1)
    (h : (release page).Runs env x calls result y) :
    result = .ok () ∧ calls.filterMap Ask.closing? =
      match (env (.page page .isClosed) x).1 with
      | .ok false => [page]
      | _ => [] := by
  obtain ⟨inner, hinner, hok⟩ := runs_of_ignore h
  obtain ⟨rest, rfl, hrest⟩ := runs_ask.mp hinner
  have hspared := hasked x
  rcases hanswer : (env (.page page .isClosed) x).1 with fault | closed
  · rw [hanswer] at hrest hspared
    obtain ⟨rfl, rfl, rfl⟩ := runs_fail.mp hrest
    exact ⟨hok hspared.error, rfl⟩
  · rw [hanswer] at hrest
    cases closed with
    | true =>
      obtain ⟨rfl, rfl, rfl⟩ := runs_done.mp hrest
      exact ⟨hok nofun, rfl⟩
    | false =>
      obtain ⟨_, rfl, hclose⟩ := runs_ask.mp hrest
      obtain ⟨rfl, rfl, rfl⟩ := runs_ofResult.mp hclose
      exact ⟨hok (hclosed _), rfl⟩

theorem confined_release (page : PageRef) : (release page).Confined
    (fun q => q = .page page .isClosed ∨ q = .page page .close) fun _ _ => False := by
  refine Confined.ignore (Confined.bind ?_ fun closed => confined_ite ?_ (confined_done _))
  · exact confined_ask (.inl rfl) fun r => confined_ofResult r
  · exact confined_ask (.inr rfl) fun r => confined_ofResult r

end Session
end Pageflow
