import Pageflow.Proofs.Session.News
import Pageflow.Proofs.Session.Pages

/-! What a use of the session asks of the launcher and of a context, and what it makes of the
answer: a context that is launched or found in hand leads to a page on it, and a launch that fails
to a fault that says so. -/
namespace Pageflow

/-- A question that neither asks for a browser to be launched nor for a page. -/
def Ask.Aside : Ask → Prop
  | .browser (.launch _ _) | .browser (.newPage _) => False
  | _ => True

namespace Session
open Browser Program

/-- The call of the launcher that the options ask for. -/
abbrev Options.launcher (o : Options) : Ask := .browser (.launch o.profile o.launchOptions)

/-- How far a use has come. -/
inductive Errand where
  | fresh
  /-- It asks for neither a context nor a page. -/
  | aside
  | launching
  | opening (context : ContextRef)
  | paging (context : ContextRef) (page : PageRef)
  | over (result : Result Yield)

def Errand.Early : Errand → Prop
  | .fresh | .aside => True
  | _ => False

/-- Any fault may end the errand. -/
def Errand.Fails : Errand → Prop
  | .launching | .over _ => False
  | _ => True

/-- The questions that may be open. -/
def Errand.Rests (o : Options) (u : Use) : Errand → Ask → Prop
  | .aside, q | .paging _ _, q => q.Aside
  | .launching, q => u = .acquire ∧ q = o.launcher
  | .opening c, q => q = .browser (.newPage c)
  | _, _ => False

/-- What a launch that failed comes to. -/
def unlaunched (fault : Fault) : Fault :=
  if fault.isCancelled then fault
  else .sessionLaunch ("Could not launch browser: " ++ fault.message)

/-- What a turn does for an errand. -/
inductive Serves (o : Options) : Errand → Site → Errand → Site → Prop where
  | wait {η : Errand} (hearly : η.Early) (x y : Site) : Serves o η x .aside y
  | launch {η : Errand} (hearly : η.Early) (x y : Site) : Serves o η x .launching y
  | find {η : Errand} (hearly : η.Early) {x y : Site} {c : ContextRef}
    (hhand : y.2.session.context = some c) : Serves o η x (.opening c) y
  | take {x y : Site} {c : ContextRef} (hnote : y.1.2 = x.1.2 ++ [⟨o.launcher, .ok c⟩])
    (hhand : y.2.session.context = some c) : Serves o .launching x (.opening c) y
  | refuse {x y : Site} {fault : Fault} (hnote : y.1.2 = x.1.2 ++ [⟨o.launcher, .error fault⟩]) :
    Serves o .launching x (.over (.error (unlaunched fault))) y
  | opened {x y : Site} {c : ContextRef} {page : PageRef}
    (hnote : y.1.2 = x.1.2 ++ [⟨.browser (.newPage c), .ok page⟩]) :
    Serves o (.opening c) x (.paging c page) y
  | page (c : ContextRef) (page : PageRef) (x y : Site) :
    Serves o (.paging c page) x (.paging c page) y
  | serve (c : ContextRef) (page : PageRef) (x y : Site) :
    Serves o (.paging c page) x (.over (.ok (.page page))) y
  | finish {η : Errand} (hearly : η.Early) (x y : Site) : Serves o η x (.over (.ok .nothing)) y
  | fail {η : Errand} (hfails : η.Fails) (fault : Fault) (x y : Site) :
    Serves o η x (.over (.error fault)) y

def Use.serving (o : Options) (u : Use) :
    Contract Pageflow.State Ask (Contexts × List (Note Ask Ask.Reply)) Yield Errand where
  start := .fresh
  rely _ _ := True
  rests := Errand.Rests o u
  moves := Serves o
  ends η result := η = .over result

section

variable {call : Nat → Use} {o : Options} {u : Use} {α : Type} {η : Errand} {before now : Site}

theorem Errand.early_fresh : Errand.fresh.Early := trivial

theorem Errand.early_aside : Errand.aside.Early := trivial

theorem Errand.Early.fails (h : η.Early) : η.Fails := by
  cases η with
  | fresh | aside => trivial
  | _ => exact h.elim

theorem closes_fault (h : η.Fails) (fault : Fault) :
    (u.serving o).closes (.error fault) η before now :=
  ⟨_, .fail h fault _ _, rfl⟩

/-! ## Uses that need no page -/

/-- Whatever else is asked, and whatever becomes of the session, the errand has not begun. -/
theorem keeps_of_within {asks : Ask → Prop} {writes : Pageflow.State → Pageflow.State → Prop}
    {p : Activity α} (hasks : ∀ q, asks q → q.Aside) (hp : p.Within asks writes now.2)
    (hearly : η.Early) :
    p.Keeps (climate call).noted (u.serving o) (fun _ η _ _ => η.Early) η before now := by
  induction p generalizing η before now with
  | done value => exact hearly
  | fail fault => exact hearly
  | read next ih => exact ih now.2 hp hearly
  | write s next ih => exact ih hp.2 hearly
  | ask q next ih =>
    refine ⟨nofun, fun _ => ⟨.aside, .wait hearly _ _, hasks q hp.1, fun later r w _ _ => ?_⟩⟩
    exact ih r (hp.2 r later.2) Errand.early_aside

theorem aside_browser {c : BrowserCall} (hc : (Ask.browser c).Aside) :
    c.run.Confined Ask.Aside fun _ _ => True :=
  confined_ask hc fun r => confined_ofResult r

theorem confined_stopDriver : stopDriver.Confined Ask.Aside fun _ _ => True := by
  refine confined_read fun s => confined_ite ?_ (confined_done _)
  exact (aside_browser (by trivial)).ignore.bind fun _ => confined_modify fun _ => trivial

theorem confined_close : Session.close.Confined Ask.Aside fun _ _ => True := by
  refine Confined.bind (confined_update fun _ => trivial) fun ticket =>
    Confined.ensure (Confined.bind ?_ fun _ => ?_) (confined_modify fun _ => trivial)
  · exact confined_ask trivial fun r => confined_ofResult r
  · refine confined_read fun s => ?_
    simp only [Program.bind]
    split
    · exact (aside_browser (by trivial)).ignore.bind fun _ =>
        Confined.bind (confined_modify fun _ => trivial) fun _ => confined_stopDriver
    · exact confined_stopDriver

theorem serves_of_confined {p : Activity Unit} {x : Site}
    (hp : p.Confined Ask.Aside fun _ _ => True) :
    (p.bind fun _ => .done .nothing).Keeps (climate call).noted (u.serving o)
      (u.serving o).closes .fresh x x := by
  refine Program.keeps_bind.mpr ((keeps_of_within (fun _ => id) (hp x.2)
    Errand.early_fresh).mono ?_)
  rintro (fault | _) η before now hearly
  · exact closes_fault hearly.fails fault
  · exact ⟨_, .finish hearly _ _, rfl⟩

/-! ## Acquiring a page -/

/-- The launcher has been called, unless something before it failed. -/
def Called (o : Options) :
    Ending Pageflow.State (Contexts × List (Note Ask Ask.Reply)) ContextRef Errand :=
  fun result η before now => match result with
    | .ok c => η = .launching ∧ now.1.2 = before.1.2 ++ [⟨o.launcher, .ok c⟩]
    | .error fault => η.Early ∨
      η = .launching ∧ now.1.2 = before.1.2 ++ [⟨o.launcher, .error fault⟩]

/-- There is a context to open a page on, or the use is over. -/
def Found (o : Options) :
    Ending Pageflow.State (Contexts × List (Note Ask Ask.Reply)) ContextRef Errand :=
  fun result η before now => match result with
    | .ok c => Serves o η before (.opening c) now
    | .error fault => Serves o η before (.over (.error fault)) now

theorem Serves.of_same {η' : Errand} {s : Pageflow.State} (h : Serves o η before η' now)
    (hsame : s.session.context = now.2.session.context) :
    Serves o η before η' (now.1, s) := by
  cases h with
  | find hearly hhand => exact .find hearly (hsame.trans hhand)
  | take hnote hhand => exact .take hnote (hsame.trans hhand)
  | refuse hnote => exact .refuse hnote
  | opened hnote => exact .opened hnote
  | wait hearly => exact .wait hearly _ _
  | launch hearly => exact .launch hearly _ _
  | page => exact .page _ _ _ _
  | serve => exact .serve _ _ _ _
  | finish hearly => exact .finish hearly _ _
  | fail hfails => exact .fail hfails _ _ _

theorem calls_launcher (hearly : η.Early) :
    (BrowserCall.launch o.profile o.launchOptions).run.Keeps (climate call).noted
      (Use.acquire.serving o) (Called o) η before now := by
  refine ⟨nofun, fun _ => ⟨.launching, .launch hearly _ _, ⟨rfl, rfl⟩,
    fun later r w _ hanswer => ?_⟩⟩
  cases r with
  | ok c => exact ⟨rfl, hanswer.2⟩
  | error fault => exact .inr ⟨rfl, hanswer.2⟩

theorem calls_start (hearly : η.Early) :
    (start o).Keeps (climate call).noted (Use.acquire.serving o) (Called o) η before now := by
  unfold start
  change Program.Keeps _ _
    (if o.driven && !now.2.session.driverStarted then _ else _) _ η before now
  split
  · refine ⟨nofun, fun _ => ⟨.aside, .wait hearly _ _, trivial, fun later r w _ _ => ?_⟩⟩
    cases r with
    | ok => exact calls_launcher Errand.early_aside
    | error fault => exact .inl Errand.early_aside
  · exact calls_launcher hearly

theorem finds_launch (hearly : η.Early) :
    (launch o).Keeps (climate call).noted (Use.acquire.serving o) (Found o) η before now := by
  refine ⟨nofun, fun _ => ⟨.aside, .wait hearly _ _, trivial, fun later r w _ _ => ?_⟩⟩
  cases r with
  | error fault => exact .fail (by trivial) fault _ _
  | ok =>
    refine Program.keeps_bind.mpr (Program.keeps_ofResult.mpr ?_)
    refine Program.keeps_bind.mpr (Program.keeps_rescueIf.mpr
      ((calls_start Errand.early_aside).mono ?_))
    rintro (fault | c) η before now hcalled
    · have hfault : ∀ fault', (fault' = unlaunched fault) →
          Serves o η before (.over (.error fault')) now := by
        rintro fault' rfl
        rcases hcalled with hearly | ⟨rfl, hnote⟩
        · exact .fail hearly.fails _ _ _
        · exact .refuse hnote
      dsimp only
      split
      · rename_i hgoes
        exact hfault _ (if_neg (by simpa using hgoes)).symm
      · rename_i hcancelled
        exact hfault _ (if_pos (by simpa using hcancelled)).symm
    · obtain ⟨rfl, hnote⟩ := hcalled
      exact .take hnote rfl

theorem finds_context (x : Site) :
    (context o).Keeps (climate call).noted (Use.acquire.serving o) (Found o) .fresh x x := by
  refine Program.keeps_ensure.mpr ?_
  refine ⟨nofun, fun _ => ⟨.aside, .wait Errand.early_fresh _ _, trivial,
    fun later r w _ _ => ?_⟩⟩
  cases r with
  | error fault => exact .fail (by trivial) fault _ _
  | ok came =>
    suffices h : Program.Keeps _ _ _ (Found o) _ _ _ from h.mono <| by
      rintro (fault | c) η before now h
      · exact h.of_same rfl
      · exact h.of_same rfl
    unfold Program.state
    simp only [Program.bind_eq_bind, Program.ofResult, Program.bind, Program.Keeps]
    split
    · exact .find Errand.early_aside ‹_›
    · exact finds_launch Errand.early_aside

theorem serves_call {c : ContextRef} (page : PageRef) (p : PageCall) (hp : (Ask.page page p).Aside)
    (h : Serves o η before (.paging c page) now) :
    (page.call p).Keeps (climate call).noted (u.serving o)
      (fun _ η _ _ => η = .paging c page) η before now := by
  refine ⟨nofun, fun _ => ⟨.paging c page, h, hp, fun later r w _ _ => ?_⟩⟩
  exact Program.keeps_ofResult.mpr rfl

theorem serves_acquire (x : Site) :
    (Use.acquire.run o).Keeps (climate call).noted (Use.acquire.serving o)
      (Use.acquire.serving o).closes .fresh x x := by
  refine Program.keeps_bind.mpr (Program.keeps_bind.mpr ((finds_context x).mono ?_))
  rintro (fault | c) η before now hfound
  · exact ⟨_, hfound, rfl⟩
  refine Program.keeps_bind.mpr (Program.keeps_rescueIf.mpr ?_)
  refine ⟨nofun, fun _ => ⟨.opening c, hfound, rfl, fun later r w _ hanswer => ?_⟩⟩
  cases r with
  | error fault =>
    change if fault.fromBrowser then Program.Keeps _ _ _ _ _ _ _ else Contract.closes _ _ _ _ _
    split
    · exact closes_fault (by trivial) _
    · exact closes_fault (by trivial) _
  | ok page =>
    refine Program.keeps_bind.mpr ((serves_call page _ trivial (.opened hanswer.2)).mono ?_)
    rintro (fault | _) η before now rfl
    · exact closes_fault (by trivial) fault
    refine Program.keeps_bind.mpr ((serves_call page _ trivial (.page _ _ _ _)).mono ?_)
    rintro (fault | _) η before now rfl
    · exact closes_fault (by trivial) fault
    · exact ⟨_, .serve _ _ _ _, rfl⟩

theorem serves_run (u : Use) (x : Site) :
    (u.run o).Keeps (climate call).noted (u.serving o) (u.serving o).closes .fresh x x := by
  cases u with
  | acquire => exact serves_acquire x
  | release page =>
    refine serves_of_confined ((confined_release page).mono ?_ fun _ _ => nofun)
    rintro q (rfl | rfl)
    · trivial
    · trivial
  | close => exact serves_of_confined confined_close
  | closed c => exact serves_of_confined (confined_modify fun _ => trivial)

end

end Session
end Pageflow
