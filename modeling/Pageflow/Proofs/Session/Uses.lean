import Pageflow.Proofs.Activity.Calm
import Pageflow.Session.Manager

/-! What one use of a session does, turn by turn. A use may be cancelled at any
question and every call of the browser may fail. The world knows which contexts
the launcher has returned and which of them are closed; they may also close by
themselves, and the session may be told of it at any later time. -/
namespace Pageflow.Session
open Browser

inductive Use where
  | acquire
  | release (page : PageRef)
  | close
  /-- The session is told that a context was closed. -/
  | closed (context : ContextRef)
deriving DecidableEq

inductive Yield where
  | page (page : PageRef)
  | nothing

def Use.run (o : Options) : Use → Activity Yield
  | .acquire => return .page (← Session.acquire o)
  | .release page => do
    Session.release page
    return .nothing
  | .close => do
    Session.close
    return .nothing
  | .closed context => do
    change fun s => s.contextClosed context
    return .nothing

/-- The contexts that the launcher has returned, and those that are closed. -/
structure Contexts where
  returned : List ContextRef
  closed : List ContextRef

namespace Contexts

def launch (w : Contexts) (context : ContextRef) : Contexts :=
  { w with returned := w.returned ++ [context] }

def shut (w : Contexts) (context : ContextRef) : Contexts :=
  { w with closed := context :: w.closed }

/-- The answers to a question, and what the contexts are then. The launcher
returns a new context, closing one succeeds once it is closed, and the lock goes
to whom it belongs to. -/
def Answers (w : Contexts) (s : State) : (q : Ask) → Ask.Reply q → Contexts → Prop
  | .browser (.launch _ _), r, w' => match r with
    | .ok context => context ∉ w.returned ∧ w' = w.launch context
    | .error _ => w' = w
  | .browser (.closeContext context), r, w' => match r with
    | .ok _ => w' = w.shut context
    | .error _ => w' = w
  | .await (.turn ticket) _, r, w' => w' = w ∧ ∀ came, r = .ok came → s.holds ticket
  | _, _, w' => w' = w

end Contexts

def climate (call : Nat → Use) : Climate Pageflow.State Ask Ask.Reply Contexts where
  admits i x := ∀ context, call i = .closed context → context ∈ x.1.closed
  atOnce _ := False
  answers q x r w := x.1.Answers x.2.session q r w
  happens x y := y.2.session = x.2.session ∧ y.1.returned = x.1.returned ∧
    ∀ context ∈ x.1.closed, context ∈ y.1.closed

inductive Phase where
  | fresh
  /-- The use waits for the lock. -/
  | queued (ticket : Nat)
  /-- The directory is made or the driver started. -/
  | preparing (ticket : Nat)
  | launching (ticket : Nat)
  | opening (context : ContextRef)
  /-- Only pages are called from here on. -/
  | paging
  | closing (ticket : Nat)
  | stopping (ticket : Nat)
  /-- The page was refused and the context in hand let go of. -/
  | stale
  /-- The session was closed. -/
  | shut
  /-- The lock was given up with a fault. -/
  | failed
  | finished

/-- The ticket of a use that holds or wants the lock. -/
def Phase.ticket? : Phase → Option Nat
  | .queued t | .preparing t | .launching t | .closing t | .stopping t => some t
  | _ => none

/-- What a turn of a use does to the contexts and the session. -/
inductive Turns : Use → Phase → Contexts × State → Phase → Contexts × State → Prop where
  | enqueue {u : Use} (hlocks : u = .acquire ∨ u = .close) (w : Contexts) (s : State) :
    Turns u .fresh (w, s) (.queued s.enqueue.1) (w, s.enqueue.2)
  | abandon {u : Use} {φ : Phase} {t : Nat} (hticket : φ.ticket? = some t) (w : Contexts)
    (s : State) : Turns u φ (w, s) .failed (w, s.leave t)
  | find {t : Nat} {w : Contexts} {s : State} {c : ContextRef} (hholds : s.holds t)
    (hcontext : s.context = some c) : Turns .acquire (.queued t) (w, s) (.opening c) (w, s.leave t)
  | prepare {t : Nat} {w : Contexts} {s : State} (hholds : s.holds t) (hnone : s.context = none) :
    Turns .acquire (.queued t) (w, s) (.preparing t) (w, s)
  | prepareOn (t : Nat) (w : Contexts) (s : State) :
    Turns .acquire (.preparing t) (w, s) (.preparing t) (w, s)
  | launch (t : Nat) (w : Contexts) (s : State) (started : Bool) :
    Turns .acquire (.preparing t) (w, s) (.launching t) (w, { s with driverStarted := started })
  | take {t : Nat} {w : Contexts} {s : State} {c : ContextRef} (hnew : c ∉ w.returned) :
    Turns .acquire (.launching t) (w, s) (.opening c)
      (w.launch c, { s with context := some c }.leave t)
  | opened (c : ContextRef) (w : Contexts) (s : State) :
    Turns .acquire (.opening c) (w, s) .paging (w, s)
  | refused (c : ContextRef) (w : Contexts) (s : State) :
    Turns .acquire (.opening c) (w, s) .stale (w, s.drop)
  | unopened (c : ContextRef) (w : Contexts) (s : State) :
    Turns .acquire (.opening c) (w, s) .finished (w, s)
  | visit (page : PageRef) (w : Contexts) (s : State) :
    Turns (.release page) .fresh (w, s) .paging (w, s)
  | page (u : Use) (w : Contexts) (s : State) : Turns u .paging (w, s) .paging (w, s)
  | paged {u : Use} (hu : u ≠ .close) (w : Contexts) (s : State) :
    Turns u .paging (w, s) .finished (w, s)
  | shutting {t : Nat} {w : Contexts} {s : State} {c : ContextRef} (hholds : s.holds t)
    (hcontext : s.context = some c) : Turns .close (.queued t) (w, s) (.closing t) (w, s)
  | stop {t : Nat} {w : Contexts} {s : State} (hholds : s.holds t) (hnone : s.context = none) :
    Turns .close (.queued t) (w, s) (.stopping t) (w, s)
  | idle {t : Nat} {w : Contexts} {s : State} (hholds : s.holds t) (hnone : s.context = none) :
    Turns .close (.queued t) (w, s) .shut (w, s.leave t)
  | dropStop {t : Nat} {w w' : Contexts} {s : State} (hreturned : w'.returned = w.returned)
    (hclosed : ∀ c ∈ w.closed, c ∈ w'.closed) :
    Turns .close (.closing t) (w, s) (.stopping t) (w', s.drop)
  | dropShut {t : Nat} {w w' : Contexts} {s : State} (hreturned : w'.returned = w.returned)
    (hclosed : ∀ c ∈ w.closed, c ∈ w'.closed) :
    Turns .close (.closing t) (w, s) .shut (w', s.drop.leave t)
  | stopped (t : Nat) (w : Contexts) (s : State) : Turns .close (.stopping t) (w, s) .shut
    (w, { s with driverStarted := false }.leave t)
  | told {c : ContextRef} {w : Contexts} {s : State} (hclosed : c ∈ w.closed) :
    Turns (.closed c) .fresh (w, s) .finished (w, s.drop)

def Phase.Ends : Phase → Result Yield → Prop
  | .stale, result => ∃ message, result = .error (.staleSession message)
  | .shut, result => result = .ok .nothing
  | .failed, result => ∃ fault, result = .error fault
  | .finished, _ => True
  | _, _ => False

def Phase.Open : Phase → Prop
  | .stale | .shut | .failed | .finished => False
  | _ => True

/-- Only a use that is launching has a call of the launcher open. -/
def Phase.Rests (φ : Phase) (q : Ask) : Prop :=
  φ.Open ∧ ∀ profile options, q = .browser (.launch profile options) → ∃ t, φ = .launching t

def Use.contract (u : Use) : Contract Pageflow.State Ask Contexts Yield Phase where
  start := .fresh
  rely _ _ := True
  rests := Phase.Rests
  moves φ x φ' y := Turns u φ (x.1, x.2.session) φ' (y.1, y.2.session)
  ends := Phase.Ends

/-- The part of what is shared that a use of the session is about. -/
abbrev view (x : Contexts × Pageflow.State) : Contexts × State := (x.1, x.2.session)

section

variable {call : Nat → Use} {o : Options} {φ : Phase} {before now : Contexts × Pageflow.State}

theorem rests_of_ne {φ : Phase} {q : Ask} (hopen : φ.Open)
    (h : ∀ profile options, q ≠ .browser (.launch profile options)) : φ.Rests q :=
  ⟨hopen, fun profile options heq => absurd heq (h profile options)⟩

/-- The lock is waited for and, however what is done while holding it ends, given
back in the turn in which it ends. -/
theorem keeps_withLock {α : Type} {u : Use} (hu : u = .acquire ∨ u = .close) {p : Activity α}
    {post : Ending Pageflow.State Contexts α Phase} {x : Contexts × Pageflow.State}
    (hfails : ∀ t fault (y : Contexts × Pageflow.State),
      Turns u (.queued t) (view y) .failed (y.1, y.2.session.leave t) →
      post (.error fault) (.queued t) y (y.1, { y.2 with session := y.2.session.leave t }))
    (hp : ∀ t (y : Contexts × Pageflow.State), y.2.session.holds t →
      p.Keeps (climate call) u.contract (fun result φ before now =>
        post result φ before (now.1, { now.2 with session := now.2.session.leave t }))
        (.queued t) y y) :
    (withLock p).Keeps (climate call) u.contract post .fresh x x := by
  unfold withLock
  change Program.Keeps _ _ (Program.ensure _ _) _ Phase.fresh x _
  rw [Program.keeps_ensure]
  refine ⟨nofun, fun _ => ⟨.queued x.2.session.enqueue.1, .enqueue hu _ _,
    rests_of_ne trivial nofun, fun later reply w _ hanswer => ?_⟩⟩
  obtain ⟨rfl, hholds⟩ := hanswer
  cases reply with
  | error fault => exact hfails _ fault later (.abandon rfl _ _)
  | ok came => exact hp _ later (hholds came rfl)

/-- The launcher's answer comes while the use is launching. -/
def Started (t : Nat) : Ending Pageflow.State Contexts ContextRef Phase :=
  fun result φ before now => match result with
  | .ok c => φ = .launching t ∧ c ∉ before.1.returned ∧ now = (before.1.launch c, before.2)
  | .error _ => φ.ticket? = some t ∧ now = before

theorem keeps_launcher {t : Nat}
    (hturns : Turns .acquire φ (view before) (.launching t) (view now)) :
    (BrowserCall.launch o.profile o.launchOptions).run.Keeps (climate call) Use.acquire.contract
      (Started t) φ before now := by
  refine ⟨nofun, fun _ => ⟨.launching t, hturns, ⟨trivial, fun _ _ _ => ⟨t, rfl⟩⟩,
    fun later reply w _ hanswer => ?_⟩⟩
  cases reply with
  | error fault =>
    obtain rfl : w = later.1 := hanswer
    exact ⟨rfl, rfl⟩
  | ok c =>
    obtain ⟨hnew, rfl⟩ := hanswer
    exact ⟨rfl, hnew, rfl⟩

theorem keeps_start (t : Nat) (x : Contexts × Pageflow.State) :
    (start o).Keeps (climate call) Use.acquire.contract (Started t) (.preparing t) x x := by
  unfold start
  change Program.Keeps _ _ (if o.driven && !x.2.session.driverStarted then _ else _) _
    (Phase.preparing t) x x
  split
  · refine ⟨nofun, fun _ => ⟨.preparing t, .prepareOn t _ _, rests_of_ne trivial nofun,
      fun later reply w _ hanswer => ?_⟩⟩
    obtain rfl : w = later.1 := hanswer
    cases reply with
    | error fault => exact ⟨rfl, rfl⟩
    | ok => exact keeps_launcher (.launch t _ _ true)
  · exact keeps_launcher (.launch t _ _ x.2.session.driverStarted)

/-- The use has a context in hand and no longer holds the lock, or has failed. -/
def Handed : Ending Pageflow.State Contexts ContextRef Phase :=
  fun result φ before now => match result with
  | .ok c => Turns .acquire φ (view before) (.opening c) (view now)
  | .error _ => Turns .acquire φ (view before) .failed (view now)

theorem keeps_launch {t : Nat} {x : Contexts × Pageflow.State} (hholds : x.2.session.holds t)
    (hnone : x.2.session.context = none) :
    (launch o).Keeps (climate call) Use.acquire.contract (fun result φ before now =>
      Handed result φ before (now.1, { now.2 with session := now.2.session.leave t }))
      (.queued t) x x := by
  unfold launch
  refine ⟨nofun, fun _ => ⟨.preparing t, .prepare hholds hnone, rests_of_ne trivial nofun,
    fun later reply w _ hanswer => ?_⟩⟩
  obtain rfl : w = later.1 := hanswer
  cases reply with
  | error fault => exact .abandon rfl _ _
  | ok =>
    refine Program.keeps_bind.mpr (Program.keeps_ofResult.mpr ?_)
    refine Program.keeps_bind.mpr (Program.keeps_rescueIf.mpr ?_)
    refine (keeps_start t later).mono ?_
    rintro (fault | c) φ before now hstarted
    · obtain ⟨hticket, rfl⟩ := hstarted
      change if !fault.isCancelled then Turns _ _ _ _ _ else Turns _ _ _ _ _
      split
      · exact .abandon hticket _ _
      · exact .abandon hticket _ _
    · obtain ⟨rfl, hnew, rfl⟩ := hstarted
      exact .take hnew

theorem keeps_context (x : Contexts × Pageflow.State) :
    (context o).Keeps (climate call) Use.acquire.contract Handed .fresh x x := by
  unfold context
  refine keeps_withLock (.inl rfl) (fun _ _ _ hturns => hturns) fun t y hholds => ?_
  unfold Program.state
  simp only [Program.bind_eq_bind, Program.bind, Program.Keeps]
  split
  · exact .find hholds ‹_›
  · exact keeps_launch hholds ‹_›

theorem keeps_call {u : Use} (page : PageRef) (c : PageCall)
    (hturns : Turns u φ (view before) .paging (view now)) :
    (page.call c).Keeps (climate call) u.contract
      (fun _ φ before now => φ = .paging ∧ now = before) φ before now := by
  refine ⟨nofun, fun _ => ⟨.paging, hturns, rests_of_ne trivial nofun,
    fun later reply w _ hanswer => ?_⟩⟩
  obtain rfl : w = later.1 := hanswer
  exact Program.keeps_ofResult.mpr ⟨rfl, rfl⟩

theorem closes_paging {u : Use} (hu : u ≠ .close) (result : Result Yield)
    (x : Contexts × Pageflow.State) : u.contract.closes result .paging x x :=
  ⟨.finished, .paged hu _ _, trivial⟩

theorem keeps_acquire (x : Contexts × Pageflow.State) :
    (Use.acquire.run o).Keeps (climate call) Use.acquire.contract Use.acquire.contract.closes
      .fresh x x := by
  refine Program.keeps_bind.mpr (Program.keeps_bind.mpr ?_)
  refine (keeps_context x).mono ?_
  rintro (fault | c) φ before now hhanded
  · exact ⟨.failed, hhanded, fault, rfl⟩
  refine Program.keeps_bind.mpr (Program.keeps_rescueIf.mpr ?_)
  refine ⟨nofun, fun _ => ⟨.opening c, hhanded, rests_of_ne trivial nofun,
    fun later reply w _ hanswer => ?_⟩⟩
  obtain rfl : w = later.1 := hanswer
  cases reply with
  | error fault =>
    change if fault.fromBrowser then Program.Keeps _ _ _ _ _ _ _ else Contract.closes _ _ _ _ _
    split
    · exact ⟨.stale, .refused c _ _, _, rfl⟩
    · exact ⟨.finished, .unopened c _ _, trivial⟩
  | ok page =>
    refine Program.keeps_bind.mpr ((keeps_call page _ (.opened c _ _)).mono ?_)
    rintro (fault | _) φ before now ⟨rfl, rfl⟩
    · exact closes_paging (by simp) _ now
    refine Program.keeps_bind.mpr ((keeps_call page _ (.page _ _ _)).mono ?_)
    rintro (fault | _) φ before now ⟨rfl, rfl⟩
    · exact closes_paging (by simp) _ now
    · exact closes_paging (by simp) _ now

theorem keeps_release (page : PageRef) (x : Contexts × Pageflow.State) :
    ((Use.release page).run o).Keeps (climate call) (Use.release page).contract
      (Use.release page).contract.closes .fresh x x := by
  have hfault : ∀ (fault : Fault) (y : Contexts × Pageflow.State), if !fault.isCancelled then
      (Use.release page).contract.closes (.ok .nothing) .paging y y
    else (Use.release page).contract.closes (.error fault) .paging y y := by
    intro fault y
    split
    · exact closes_paging (by simp) _ y
    · exact closes_paging (by simp) _ y
  refine Program.keeps_bind.mpr (Program.keeps_rescueIf.mpr (Program.keeps_bind.mpr ?_))
  refine (keeps_call page _ (.visit page _ _)).mono ?_
  rintro (fault | isClosed) φ before now ⟨rfl, rfl⟩
  · exact hfault fault now
  cases isClosed with
  | true => exact closes_paging (by simp) _ now
  | false =>
    refine (keeps_call page _ (.page _ _ _)).mono ?_
    rintro (fault | _) φ before now ⟨rfl, rfl⟩
    · exact hfault fault now
    · exact closes_paging (by simp) _ now

/-- The lock is given back in the turn that closes the session, or with a fault. -/
def Closed (t : Nat) : Ending Pageflow.State Contexts Unit Phase :=
  fun result φ before now => match result with
  | .ok _ => Turns .close φ (view before) .shut (now.1, now.2.session.leave t)
  | .error _ => Turns .close φ (view before) .failed (now.1, now.2.session.leave t)

def stopDriver : Activity Unit := do
  let s ← Program.state
  if s.session.driverStarted then
    BrowserCall.stopDriver.run.ignore
    change fun s => { s with driverStarted := false }

theorem keeps_stopDriver {t : Nat}
    (hstop : Turns .close φ (view before) (.stopping t) (view now))
    (hshut : Turns .close φ (view before) .shut (now.1, now.2.session.leave t)) :
    stopDriver.Keeps (climate call) Use.close.contract (Closed t) φ before now := by
  unfold stopDriver
  change Program.Keeps _ _ (if now.2.session.driverStarted then _ else _) _ φ before now
  split
  · refine Program.keeps_bind.mpr (Program.keeps_rescueIf.mpr ?_)
    refine ⟨nofun, fun _ => ⟨.stopping t, hstop, rests_of_ne trivial nofun,
      fun later reply w _ hanswer => ?_⟩⟩
    obtain rfl : w = later.1 := hanswer
    cases reply with
    | ok => exact .stopped t _ _
    | error fault =>
      change if !fault.isCancelled then Turns _ _ _ _ _ else Turns _ _ _ _ _
      split
      · exact .stopped t _ _
      · exact .abandon rfl _ _
  · exact hshut

theorem keeps_close (x : Contexts × Pageflow.State) :
    (Use.close.run o).Keeps (climate call) Use.close.contract Use.close.contract.closes
      .fresh x x := by
  have hlocked : Session.close.Keeps (climate call) Use.close.contract
      (fun result φ before now => match result with
        | .ok _ => Turns .close φ (view before) .shut (view now)
        | .error _ => Turns .close φ (view before) .failed (view now)) .fresh x x := by
    unfold Session.close
    refine keeps_withLock (.inr rfl) (fun _ _ _ hturns => hturns) fun t y hholds => ?_
    unfold Program.state
    simp only [Program.bind_eq_bind, Program.bind, Program.Keeps]
    split
    · refine Program.keeps_bind.mpr (Program.keeps_rescueIf.mpr ?_)
      refine ⟨nofun, fun _ => ⟨.closing t, .shutting hholds ‹_›, rests_of_ne trivial nofun,
        fun later reply w _ hanswer => ?_⟩⟩
      cases reply with
      | ok =>
        obtain rfl : w = later.1.shut _ := hanswer
        exact keeps_stopDriver (.dropStop rfl fun _ => .tail _) (.dropShut rfl fun _ => .tail _)
      | error fault =>
        obtain rfl : w = later.1 := hanswer
        change if !fault.isCancelled then Program.Keeps _ _ _ _ _ _ _ else Turns _ _ _ _ _
        split
        · exact keeps_stopDriver (.dropStop rfl fun _ => id) (.dropShut rfl fun _ => id)
        · exact .abandon rfl _ _
    · have hnone : y.2.session.context = none := Option.eq_none_iff_forall_ne_some.mpr ‹_›
      exact keeps_stopDriver (.stop hholds hnone) (.idle hholds hnone)
  refine Program.keeps_bind.mpr (hlocked.mono ?_)
  rintro (fault | _) φ before now hturns
  · exact ⟨.failed, hturns, fault, rfl⟩
  · exact ⟨.shut, hturns, rfl⟩

theorem keeps_told {c : ContextRef} {x : Contexts × Pageflow.State} (hclosed : c ∈ x.1.closed) :
    ((Use.closed c).run o).Keeps (climate call) (Use.closed c).contract
      (Use.closed c).contract.closes .fresh x x :=
  ⟨.finished, .told hclosed, trivial⟩

theorem keeps_run (u : Use) {i : Nat} (hcall : call i = u) {x : Contexts × Pageflow.State}
    (hadmits : (climate call).admits i x) :
    (u.run o).Keeps (climate call) u.contract u.contract.closes .fresh x x := by
  cases u with
  | acquire => exact keeps_acquire x
  | release page => exact keeps_release page x
  | close => exact keeps_close x
  | closed c => exact keeps_told (hadmits c hcall)

end

end Pageflow.Session
