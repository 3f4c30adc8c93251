import Pageflow.Proofs.Activity.Noted
import Pageflow.Proofs.Session.Uses

/-! What the session hears about its contexts. A context was closed, a page on it was
refused, or the owner had it closed: this, and a launch, are all that changes which context
is in hand and who was told that one went away. -/
namespace Pageflow.Session
open Browser

inductive News where
  | closed (context : ContextRef)
  | refused (context : ContextRef)
  /-- The owner asked for the context to be closed. -/
  | closing (context : ContextRef)
deriving DecidableEq

def News.context : News → ContextRef
  | .closed c | .refused c | .closing c => c

/-- What is heard with an answer. -/
def news : (q : Ask) → Ask.Reply q → Option News
  | .browser (.newPage c), r => match r with
    | .ok _ => none
    | .error fault => if fault.fromBrowser then some (.refused c) else none
  | .browser (.closeContext c), r => match r with
    | .ok _ => some (.closing c)
    | .error fault => if fault.isCancelled then none else some (.closing c)
  | _, _ => none

/-- The context that is launched with an answer. -/
def launched : (q : Ask) → Ask.Reply q → Option ContextRef
  | .browser (.launch _ _), r => match r with
    | .ok c => some c
    | .error _ => none
  | _, _ => none

def Use.news : Use → Option News
  | .closed c => some (.closed c)
  | _ => none

/-- The same context in hand, and the same observers told so far and still to be told. -/
structure Same (s s' : State) : Prop where
  context : s'.context = s.context
  observers : s'.observers = s.observers
  told : s'.told = s.told

/-- What news and a launch make of the session, apart from its lock and its driver. -/
def State.after (s : State) : Option News → Option ContextRef → State
  | some _, _ => s.drop
  | none, some c => { s with context := some c }
  | none, none => s

/-- What is shared while every answer is put on record. -/
abbrev Site : Type := (Contexts × List (Note Ask Ask.Reply)) × Pageflow.State

/-- Where a use of the session stands: at its begin, or where it asked something with
some context in hand. -/
inductive Place where
  | fresh
  | left (hand : Option ContextRef)

/-- What a turn from a place has made of the session so far. -/
def Heeds (u : Use) : Place → Site → Site → Prop
  | .fresh, x, y => y.1.2 = x.1.2 ∧ Same (x.2.session.after u.news none) y.2.session
  | .left hand, x, y => ∃ q r, y.1.2 = x.1.2 ++ [⟨q, r⟩] ∧
    (∀ c, q = .browser (.closeContext c) → u = .close ∧ hand = some c) ∧
      Same (x.2.session.after (news q r) (launched q r)) y.2.session

/-- A use that closes a context closes the one that was in hand when it asked for it. -/
def Use.heeding (u : Use) :
    Contract Pageflow.State Ask (Contexts × List (Note Ask Ask.Reply)) Yield Place where
  start := .fresh
  rely _ _ := True
  rests ψ q := ∀ c, q = .browser (.closeContext c) → u = .close ∧ ψ = .left (some c)
  moves ψ x ψ' y := Heeds u ψ x y ∧ ψ' = .left y.2.session.context
  ends _ _ := True

theorem Same.rfl {s : State} : Same s s := ⟨.refl _, .refl _, .refl _⟩

theorem Same.trans {s t v : State} (h : Same s t) (h' : Same t v) : Same s v :=
  ⟨h'.context.trans h.context, h'.observers.trans h.observers, h'.told.trans h.told⟩

section

variable {call : Nat → Use} {u : Use} {o : Options} {α β : Type} {ψ : Place} {before now : Site}

/-- The program does nothing to the session that was not heard first. -/
def Heeding (call : Nat → Use) (u : Use) (p : Activity α) : Prop :=
  ∀ ψ before now, Heeds u ψ before now →
    p.Keeps (climate call).noted u.heeding (fun _ => Heeds u) ψ before now

theorem Heeds.same {s : State} (h : Heeds u ψ before now) (hsame : Same now.2.session s) :
    Heeds u ψ before (now.1, { now.2 with session := s }) := by
  cases ψ with
  | fresh => exact ⟨h.1, h.2.trans hsame⟩
  | left hand =>
    obtain ⟨q, r, hnotes, hclose, hafter⟩ := h
    exact ⟨q, r, hnotes, hclose, hafter.trans hsame⟩

theorem heeding_done (value : α) : Heeding call u (.done value) := fun _ _ _ h => h

theorem heeding_ofResult (result : Result α) : Heeding call u (Program.ofResult result) :=
  fun _ _ _ h => Program.keeps_ofResult.mpr h

theorem heeding_read {next : Pageflow.State → Activity α} (h : ∀ s, Heeding call u (next s)) :
    Heeding call u (.read next) :=
  fun ψ before now hnow => h now.2 ψ before now hnow

theorem heeding_bind {p : Activity α} {f : α → Activity β} (hp : Heeding call u p)
    (hf : ∀ value, Heeding call u (f value)) : Heeding call u (p.bind f) := by
  intro ψ before now h
  refine Program.keeps_bind.mpr ((hp ψ before now h).mono ?_)
  rintro (fault | value) ψ before now h
  · exact h
  · exact hf value ψ before now h

theorem heeding_rescueIf {p : Activity α} {accepts : Fault → Bool} {recover : Fault → Activity α}
    (hp : Heeding call u p) (hrecover : ∀ fault, Heeding call u (recover fault)) :
    Heeding call u (p.rescueIf accepts recover) := by
  intro ψ before now h
  refine Program.keeps_rescueIf.mpr ((hp ψ before now h).mono ?_)
  rintro (fault | value) ψ before now h
  · dsimp only
    split
    · exact hrecover fault ψ before now h
    · exact h
  · exact h

theorem heeding_change {f : State → State} (hf : ∀ s, Same s (f s)) : Heeding call u (change f) :=
  fun _ _ now h => h.same (hf now.2.session)

/-- The turn that leads to a question has done what was heard, and what is heard with the
answer is left to the next turn. -/
theorem heeds_ask {q : Ask} {next : Ask.Reply q → Activity α}
    {post : Ending Pageflow.State (Contexts × List (Note Ask Ask.Reply)) α Place}
    (h : Heeds u ψ before now)
    (hclose : ∀ c, q = .browser (.closeContext c) → u = .close ∧ now.2.session.context = some c)
    (hnext : ∀ (later : Site) r w, (climate call).noted.answers q later r w →
      (next r).Keeps (climate call).noted u.heeding post (.left now.2.session.context) later
        (w, later.2)) :
    (Program.ask q next).Keeps (climate call).noted u.heeding post ψ before now := by
  refine ⟨nofun, fun _ => ⟨_, ⟨h, rfl⟩, fun c hc => ?_, fun later r w _ hanswer =>
    hnext later r w hanswer⟩⟩
  obtain ⟨hu, hhand⟩ := hclose c hc
  exact ⟨hu, by rw [hhand]⟩

theorem heeding_ask {q : Ask} {next : Ask.Reply q → Activity α}
    (hclose : ∀ c, q ≠ .browser (.closeContext c))
    (hquiet : ∀ r, news q r = none ∧ launched q r = none) (hnext : ∀ r, Heeding call u (next r)) :
    Heeding call u (.ask q next) := by
  intro ψ before now h
  refine heeds_ask h (fun c hc => absurd hc (hclose c)) fun later r w hanswer => ?_
  refine hnext r _ _ _ ⟨q, r, hanswer.2, fun c hc => absurd hc (hclose c), ?_⟩
  rw [(hquiet r).1, (hquiet r).2]
  exact .rfl

theorem heeding_call (page : PageRef) (c : PageCall) : Heeding call u (page.call c) :=
  heeding_ask nofun (fun _ => ⟨rfl, rfl⟩) heeding_ofResult

theorem heeding_withLock {p : Activity α} (hp : Heeding call u p) :
    Heeding call u (withLock p) := by
  intro ψ before now h
  refine Program.keeps_ensure.mpr ?_
  have hqueued : Heeds u ψ before (now.1, { now.2 with session := now.2.session.enqueue.2 }) :=
    h.same ⟨rfl, rfl, rfl⟩
  have hwait : Heeding call u
      ((.ask (.await (.turn now.2.session.enqueue.1) none) .ofResult : Activity Bool).bind
        fun _ => p) :=
    heeding_bind (heeding_ask nofun (fun _ => ⟨rfl, rfl⟩) heeding_ofResult) fun _ => hp
  exact (hwait _ _ _ hqueued).mono fun _ _ _ _ h => h.same ⟨rfl, rfl, rfl⟩

/-- The launcher has returned a context that is not in hand yet. -/
def Returned (c : ContextRef) (ψ : Place) (before now : Site) : Prop :=
  ∃ hand profile options, ψ = .left hand ∧
    now.1.2 = before.1.2 ++ [⟨.browser (.launch profile options), .ok c⟩] ∧ now.2 = before.2

theorem Returned.taken {c : ContextRef} (h : Returned c ψ before now) :
    Heeds u ψ before
      (now.1, { now.2 with session := { now.2.session with context := some c } }) := by
  obtain ⟨hand, profile, options, rfl, hnotes, hsame⟩ := h
  refine ⟨_, _, hnotes, nofun, ?_⟩
  rw [hsame]
  exact .rfl

/-- The launcher has answered. -/
def Answered (u : Use) :
    Ending Pageflow.State (Contexts × List (Note Ask Ask.Reply)) ContextRef Place :=
  fun result ψ before now => match result with
    | .ok c => Returned c ψ before now
    | .error _ => Heeds u ψ before now

theorem heeds_launcher (h : Heeds u ψ before now) :
    (BrowserCall.launch o.profile o.launchOptions).run.Keeps (climate call).noted u.heeding
      (Answered u) ψ before now := by
  refine heeds_ask h nofun fun later r w hanswer => ?_
  cases r with
  | ok c => exact ⟨_, _, _, rfl, hanswer.2, rfl⟩
  | error fault => exact ⟨_, _, hanswer.2, nofun, .rfl⟩

theorem heeds_start (h : Heeds u ψ before now) :
    (start o).Keeps (climate call).noted u.heeding (Answered u) ψ before now := by
  unfold start
  change Program.Keeps _ _
    (if o.driven && !now.2.session.driverStarted then _ else _) _ ψ before now
  split
  · refine heeds_ask h nofun fun later r w hanswer => ?_
    have hlater : Heeds u (.left now.2.session.context) later (w, later.2) :=
      ⟨_, r, hanswer.2, nofun, .rfl⟩
    cases r with
    | ok =>
      exact heeds_launcher
        (hlater.same (s := { later.2.session with driverStarted := true }) ⟨rfl, rfl, rfl⟩)
    | error fault => exact hlater
  · exact heeds_launcher h

theorem heeding_launch : Heeding call u (launch o) := by
  refine heeding_bind (heeding_ask nofun (fun _ => ⟨rfl, rfl⟩) heeding_ofResult) fun _ => ?_
  intro ψ before now h
  refine Program.keeps_bind.mpr (Program.keeps_rescueIf.mpr ((heeds_start h).mono ?_))
  rintro (fault | c) ψ before now h
  · dsimp only
    split
    · exact h
    · exact h
  · exact h.taken

theorem heeding_context : Heeding call u (context o) := by
  refine heeding_withLock (heeding_read fun s => ?_)
  simp only [Program.bind]
  split
  · exact heeding_done _
  · exact heeding_launch

theorem heeding_newPage (c : ContextRef) : Heeding call u (newPage c) := by
  intro ψ before now h
  refine Program.keeps_rescueIf.mpr (heeds_ask h nofun fun later r w hanswer => ?_)
  cases r with
  | ok page => exact ⟨_, _, hanswer.2, nofun, .rfl⟩
  | error fault =>
    change if fault.fromBrowser then Program.Keeps _ _ _ _ _ _ _ else Heeds _ _ _ _
    split
    · rename_i hrefused
      have hnews : news (.browser (.newPage c)) (.error fault) = some (.refused c) :=
        if_pos hrefused
      exact ⟨_, _, hanswer.2, nofun, by rw [hnews]; exact .rfl⟩
    · rename_i hother
      have hnews : news (.browser (.newPage c)) (.error fault) = none := if_neg hother
      exact ⟨_, _, hanswer.2, nofun, by rw [hnews]; exact .rfl⟩

theorem heeding_acquire : Heeding call u (acquire o) :=
  heeding_bind heeding_context fun c => heeding_bind (heeding_newPage c) fun page =>
    heeding_bind (heeding_call page _) fun _ => heeding_bind (heeding_call page _) fun _ =>
      heeding_done page

theorem heeding_release (page : PageRef) : Heeding call u (release page) := by
  refine heeding_rescueIf (heeding_bind (heeding_call page _) fun isClosed => ?_)
    fun _ => heeding_done ()
  cases isClosed
  · exact heeding_call page _
  · exact heeding_done ()

/-- Whether the context could be closed or not, it is to be let go of, unless closing it is
cancelled. -/
theorem heeds_closeContext {c : ContextRef} (h : Heeds .close ψ before now)
    (hhand : now.2.session.context = some c) :
    (BrowserCall.closeContext c).run.ignore.Keeps (climate call).noted Use.close.heeding
      (fun result ψ before now => match result with
        | .ok _ => Heeds .close ψ before (now.1, { now.2 with session := now.2.session.drop })
        | .error _ => Heeds .close ψ before now) ψ before now := by
  have hclose : ∀ c', Ask.browser (.closeContext c) = .browser (.closeContext c') →
      Use.close = .close ∧ now.2.session.context = some c' := by
    rintro _ ⟨⟩
    exact ⟨rfl, hhand⟩
  refine Program.keeps_rescueIf.mpr (heeds_ask h hclose fun later r w hanswer => ?_)
  cases r with
  | ok => exact ⟨_, _, hanswer.2, hclose, .rfl⟩
  | error fault =>
    change if !fault.isCancelled then Program.Keeps _ _ _ _ _ _ _ else Heeds _ _ _ _
    split
    · rename_i hgoes
      have hnews : news (.browser (.closeContext c)) (.error fault) = some (.closing c) :=
        if_neg (by simpa using hgoes)
      exact ⟨_, _, hanswer.2, hclose, by rw [hnews]; exact .rfl⟩
    · rename_i hstops
      have hnews : news (.browser (.closeContext c)) (.error fault) = none :=
        if_pos (by simpa using hstops)
      exact ⟨_, _, hanswer.2, hclose, by rw [hnews]; exact .rfl⟩

theorem heeding_stopDriver : Heeding call u stopDriver := by
  refine heeding_read fun s => ?_
  simp only [Program.bind]
  split
  · have hask : Heeding call u (.ask (.browser .stopDriver) .ofResult) :=
      heeding_ask (fun _ h => by cases h) (fun _ => ⟨rfl, rfl⟩) heeding_ofResult
    exact heeding_bind (heeding_rescueIf hask fun _ => heeding_done ()) fun _ =>
      heeding_change fun _ => ⟨rfl, rfl, rfl⟩
  · exact heeding_done ()

theorem heeding_close : Heeding call .close Session.close := by
  refine heeding_withLock fun ψ before now h => ?_
  unfold Program.state
  simp only [Program.bind_eq_bind, Program.bind, Program.Keeps]
  split
  · refine Program.keeps_bind.mpr ((heeds_closeContext h ‹_›).mono ?_)
    rintro (fault | _) ψ before now h
    · exact h
    · exact heeding_stopDriver _ _ _ h
  · exact heeding_stopDriver _ _ _ h

theorem Heeding.closes {p : Activity Yield} (hp : Heeding call u p) {x : Site}
    (hu : u.news = none) : p.Keeps (climate call).noted u.heeding u.heeding.closes .fresh x x := by
  refine (hp .fresh x x ⟨rfl, ?_⟩).mono fun _ _ _ _ h => ⟨_, ⟨h, rfl⟩, trivial⟩
  rw [hu]
  exact .rfl

theorem heeds_run (u : Use) (x : Site) :
    (u.run o).Keeps (climate call).noted u.heeding u.heeding.closes .fresh x x := by
  cases u with
  | acquire => exact (heeding_bind heeding_acquire fun _ => heeding_done _).closes rfl
  | release page => exact (heeding_bind (heeding_release page) fun _ => heeding_done _).closes rfl
  | close => exact (heeding_bind heeding_close fun _ => heeding_done _).closes rfl
  | closed c => exact ⟨_, ⟨⟨rfl, .rfl⟩, rfl⟩, trivial⟩

end

end Pageflow.Session
