import Pageflow.Proofs.Activity.Confined
import Pageflow.Proofs.Session.Late
import Pageflow.Proofs.Session.Serving

/-! Launching the browser. One use at a time calls the launcher, and only while no context is in
hand. A launch that fails ends its acquire and gives the lock back, pages are opened on what was
launched, and the observers are told once whenever the session stops being live. -/
namespace Pageflow.Session
open Browser Program

/-! ## Who is let in -/

/-- Whatever happens meanwhile, the program comes to call the launcher if the directory can be made
and the driver be started. -/
def Relaunches (o : Options) (p : Activity Yield) (s : Pageflow.State) : Prop :=
  ∀ (W : Type) (env : Responses Pageflow.State Ask Ask.Reply W) (w : W),
    (∀ x, (env (.makeDirectory o.profile) x).1 = .ok ()) →
    (∀ x, (env (.browser .startDriver) x).1 = .ok ()) → o.launcher ∈ p.asked env (w, s)

/-- Who is let in while no context is in hand launches one. -/
def launchesWhenLetIn (o : Options) : Outlook Pageflow.State Ask Ask.Reply Yield
  | .await (.turn _) _, next => ∀ came s, s.session.context = none →
    Relaunches o (next (.ok came)) s
  | _, _ => True

section

variable {o : Options} {W α β : Type} {env : Responses Pageflow.State Ask Ask.Reply W}
  {x : W × Pageflow.State} {q : Ask}

theorem mem_asked_bind {p : Activity α} (h : q ∈ p.asked env x) (f : α → Activity β) :
    q ∈ (p.bind f).asked env x := by
  rw [asked_bind]
  exact List.mem_append_left _ h

theorem mem_asked_attempt {p : Activity α} (h : q ∈ p.asked env x) :
    q ∈ p.attempt.asked env x := by
  rwa [asked_attempt]

theorem launcher_asked_start (hdriver : ∀ x, (env (.browser .startDriver) x).1 = .ok ()) :
    o.launcher ∈ (start o).asked env x := by
  change _ ∈ Program.asked env
    (if o.driven && !x.2.session.driverStarted then (_ : Activity ContextRef) else _) x
  split
  · refine List.mem_cons_of_mem _ ?_
    change o.launcher ∈
      Program.asked env ((Program.ofResult (env (.browser .startDriver) x).1).bind _) _
    rw [hdriver]
    exact List.mem_cons_self
  · exact List.mem_cons_self

theorem launcher_asked_launch (hdirectory : ∀ x, (env (.makeDirectory o.profile) x).1 = .ok ())
    (hdriver : ∀ x, (env (.browser .startDriver) x).1 = .ok ()) :
    o.launcher ∈ (launch o).asked env x := by
  refine List.mem_cons_of_mem _ ?_
  change o.launcher ∈ Program.asked env
    ((Program.ofResult (env (.makeDirectory o.profile) x).1).bind _) _
  rw [hdirectory]
  exact mem_asked_bind (mem_asked_bind (mem_asked_attempt (launcher_asked_start hdriver)) _) _

theorem always_of_opens {p : Activity Yield} {s : Pageflow.State}
    (hp : p.Within Ask.Opens KeepsBoard s) : p.Always (launchesWhenLetIn o) s := by
  refine hp.always fun q next hq => ?_
  unfold launchesWhenLetIn
  split
  · exact hq.elim
  · trivial

theorem acquire_launchesWhenLetIn (s : Pageflow.State) :
    (Use.acquire.run o).Always (launchesWhenLetIn o) s := by
  refine ⟨fun came s hnone W env w hdirectory hdriver => ?_, fun r s' => always_of_opens ?_⟩
  · refine mem_asked_bind (mem_asked_bind (mem_asked_bind (mem_asked_attempt ?_) _) _) _
    simp only [Program.state, Program.bind_eq_bind, Program.ofResult, Program.bind, Program.asked,
      hnone]
    exact launcher_asked_launch hdirectory hdriver
  · refine Within.bind (Within.bind (Within.bind (Within.attempt ?_) fun result => ?_) fun c => ?_)
      fun page => confined_done _
    · cases r with
      | ok came => exact confined_take o s'
      | error fault => trivial
    · exact (confined_change _ _).bind fun _ => confined_ofResult result
    · exact confined_open o c

end

/-! ## What a history of turns comes to -/

/-- The session stops being live in this turn. -/
def Falls (m : NotedMove) : Bool := m.before.2.session.isLive && !m.after.2.session.isLive

/-- The launcher has returned a context. -/
def Launched (o : Options) (history : List NotedMove) (c : ContextRef) : Prop :=
  ∃ m ∈ history, m.notes = [⟨o.launcher, .ok c⟩]

/-- A context that was launched was in hand after a turn of use `i`. -/
def Held (o : Options) (history : List NotedMove) (i : Nat) (c : ContextRef) : Prop :=
  Launched o history c ∧ ∃ m ∈ history, m.who = i ∧ m.after.2.session.context = some c

/-- Use `i` was given a page on a context that had been launched and was in hand before. -/
def Opened (o : Options) (history : List NotedMove) (i : Nat) (page : PageRef) : Prop :=
  ∃ c earlier m later, history = earlier ++ m :: later ∧ m.who = i ∧
    m.notes = [⟨.browser (.newPage c), .ok page⟩] ∧ Held o earlier i c

/-- A launch that failed, the lock having been the use's. -/
structure Failed (m : NotedMove) : Prop where
  bare : m.after.2.session.context = none
  /-- The use was first in the queue for the lock and is out of it. -/
  free : ∃ ticket, m.before.2.session.queue = ticket :: m.after.2.session.queue

/-- What has to be so of what was launched for use `i` where it stands. -/
def Served (o : Options) (history : List NotedMove) (i : Nat) : Errand → Prop
  | .opening c => Held o history i c
  | .paging _ page | .over (.ok (.page page)) => Opened o history i page
  | _ => True

abbrev Standing : Type := ((Phase × Place) × Errand) × Option Ask

abbrev Standing.phase (φ : Standing) : Phase := φ.1.1.1

abbrev Standing.errand (φ : Standing) : Errand := φ.1.2

/-- All that is promised of a use. -/
def Use.whole (o : Options) (u : Use) :
    Contract Pageflow.State Ask (Contexts × List (Note Ask Ask.Reply)) Yield Standing :=
  ((u.contract.noted.both u.heeding).both (u.serving o)).remembering

section

variable {o : Options} {call : Nat → Use} {history : List NotedMove} {x y : Site}
  {φ φ' : Standing} {who i : Nat} {c : ContextRef} {page : PageRef} {η : Errand} {s : State}
  {news? : Option News} {new? : Option ContextRef}

theorem Launched.append (h : Launched o history c) (m : NotedMove) :
    Launched o (history ++ [m]) c := by
  obtain ⟨m', hm', hnotes⟩ := h
  exact ⟨m', List.mem_append_left _ hm', hnotes⟩

theorem Held.append (h : Held o history i c) (m : NotedMove) : Held o (history ++ [m]) i c := by
  obtain ⟨hlaunched, m', hm', hwho, hhand⟩ := h
  exact ⟨hlaunched.append m, m', List.mem_append_left _ hm', hwho, hhand⟩

theorem Opened.append (h : Opened o history i page) (m : NotedMove) :
    Opened o (history ++ [m]) i page := by
  obtain ⟨c, earlier, m', later, rfl, hwho, hnotes, hheld⟩ := h
  exact ⟨c, earlier, m', later ++ [m], by simp, hwho, hnotes, hheld⟩

theorem Served.append (h : Served o history i η) (m : NotedMove) :
    Served o (history ++ [m]) i η := by
  unfold Served at h ⊢
  split at h
  · exact h.append m
  · exact h.append m
  · exact h.append m
  · trivial

/-! ### What is told -/

theorem observers_after : (s.after news? new?).observers = s.observers := by
  unfold State.after
  split
  · rw [State.drop_eq]
    split <;> rfl
  · rfl
  · rfl

theorem told_after : (s.after news? new?).told =
    s.told ++ if s.isLive && !(s.after news? new?).isLive then s.observers else [] := by
  unfold State.after
  split
  · rw [State.drop_eq]
    cases hlive : s.isLive
    · simp
    · simp [State.isLive]
  · simp [State.isLive]
  · simp

theorem Heeds.tells {u : Use} {ψ : Place} (h : Heeds u ψ x y) (who : Nat) :
    y.2.session.observers = x.2.session.observers ∧
      y.2.session.told = x.2.session.told ++
        if Falls ⟨who, x, y⟩ then x.2.session.observers else [] := by
  have hsame : ∃ n l, Same (x.2.session.after n l) y.2.session := by
    cases ψ with
    | fresh => exact ⟨_, _, h.2⟩
    | left hand =>
      obtain ⟨q, r, -, -, hafter⟩ := h
      exact ⟨_, _, hafter⟩
  obtain ⟨n, l, hsame⟩ := hsame
  refine ⟨hsame.observers.trans observers_after, ?_⟩
  unfold Falls
  rw [hsame.told, told_after, hsame.isLive]

/-! ### What comes to hand -/

theorem launched_eq_some {q : Ask} {r : Ask.Reply q} (h : launched q r = some c) :
    ∃ profile options, (⟨q, r⟩ : Note Ask Ask.Reply) =
      ⟨.browser (.launch profile options), .ok c⟩ := by
  unfold launched at h
  split at h
  · split at h
    · cases h
      exact ⟨_, _, rfl⟩
    · cases h
  · cases h

/-- A context that comes to hand was launched in this turn. -/
theorem Heeds.taken {u : Use} {ψ : Place} (h : Heeds u ψ x y)
    (hhand : y.2.session.context = some c) (who : Nat) :
    x.2.session.context = some c ∨
      ∃ profile options, Move.notes (⟨who, x, y⟩ : NotedMove) =
        [⟨.browser (.launch profile options), .ok c⟩] := by
  cases ψ with
  | fresh =>
    have hcontext := h.2.context.symm.trans hhand
    cases hnews : u.news with
    | none =>
      rw [hnews] at hcontext
      exact .inl hcontext
    | some n =>
      rw [hnews, State.after, State.context_drop] at hcontext
      cases hcontext
  | left hand =>
    obtain ⟨q, r, hnote, -, hafter⟩ := h
    have hcontext := hafter.context.symm.trans hhand
    cases hnews : news q r with
    | some n =>
      rw [hnews, State.after, State.context_drop] at hcontext
      cases hcontext
    | none =>
      rw [hnews] at hcontext
      cases hlaunched : launched q r with
      | none =>
        rw [hlaunched] at hcontext
        exact .inl hcontext
      | some c' =>
        rw [hlaunched] at hcontext
        cases hcontext
        obtain ⟨profile, options, hnote'⟩ := launched_eq_some hlaunched
        exact .inr ⟨profile, options, by rw [Move.notes_eq hnote, hnote']⟩

theorem Errand.Rests.launcher {u : Use} {profile : String} {options : Json}
    (h : η.Rests o u (.browser (.launch profile options))) :
    u = .acquire ∧ η = .launching ∧ profile = o.profile ∧ options = o.launchOptions := by
  cases η with
  | launching =>
    obtain ⟨hu, hq⟩ := h
    cases hq
    exact ⟨hu, rfl, rfl, rfl⟩
  | opening => cases h
  | _ => exact h.elim

/-! ### Turns -/

/-- What holds of the uses of one session and of all that was put on record. -/
structure Sane (o : Options) (call : Nat → Use) (names : List String) (history : List NotedMove)
    (s : State) (phase : Nat → Standing) : Prop where
  locked : Locked s (Standing.phase ∘ phase)
  nodup : s.queue.Nodup
  resting : ∀ i q, (phase i).2 = some q →
    (phase i).phase.Rests q ∧ (phase i).errand.Rests o (call i) q
  held : ∀ c, s.context = some c → Launched o history c
  served : ∀ i, Served o history i (phase i).errand
  observers : s.observers = names
  told : s.told = (history.filter Falls).flatMap fun _ => names
  tells : ∀ m ∈ history, m.after.2.session.told =
    m.before.2.session.told ++ if Falls m then names else []
  taken : ∀ m ∈ history, ∀ c, m.after.2.session.context = some c →
    m.before.2.session.context = some c ∨ call m.who = .acquire ∧ m.notes = [⟨o.launcher, .ok c⟩]
  failed : ∀ m ∈ history, ∀ profile options fault,
    m.notes = [⟨.browser (.launch profile options), .error fault⟩] →
      call m.who = .acquire ∧ (phase m.who).errand = .over (.error (unlaunched fault)) ∧ Failed m

theorem Locks.nodup {φ φ' : Phase} {s s' : State} (hlocks : Locks φ s φ' s')
    (hissued : ∀ t ∈ s.queue, t < s.nextTicket) (hnodup : s.queue.Nodup) : s'.queue.Nodup := by
  cases hlocks with
  | take _ _ _ hqueue _ =>
    rw [hqueue]
    refine List.nodup_append.mpr ⟨hnodup, by simp, fun t ht t' ht' => ?_⟩
    rw [List.mem_singleton.mp ht']
    exact Nat.ne_of_lt (hissued t ht)
  | leave _ _ hqueue _ =>
    rw [hqueue]
    exact hnodup.filter _
  | keep _ _ hqueue _ => rwa [hqueue]

theorem Serves.ne_over {η' : Errand} (h : Serves o η x η' y) (result : Result Yield) :
    η ≠ .over result := by
  rintro rfl
  cases h with
  | wait hearly | launch hearly | find hearly | finish hearly => exact hearly
  | fail hfails => exact hfails

theorem Serves.of_launching {η' : Errand} {profile : String} {options : Json} {fault : Fault}
    (h : Serves o .launching x η' y) (hnotes : Move.notes (⟨who, x, y⟩ : NotedMove) =
      [⟨.browser (.launch profile options), .error fault⟩]) :
    η' = .over (.error (unlaunched fault)) := by
  cases h with
  | take hnote =>
    rw [Move.notes_eq hnote] at hnotes
    cases hnotes
  | refuse hnote =>
    rw [Move.notes_eq hnote] at hnotes
    cases hnotes
    rfl
  | wait hearly | launch hearly | find hearly | finish hearly => exact hearly.elim
  | fail hfails => exact hfails.elim

theorem Turns.of_launching {u : Use} {t : Nat} {φ : Phase} {v z : Contexts × State}
    (h : Turns u (.launching t) v φ z) : z.2 = v.2.leave t ∨ ∃ c, z.2.context = some c := by
  cases h with
  | abandon hticket =>
    cases hticket
    exact .inl rfl
  | take => exact .inr ⟨_, rfl⟩

/-- Who holds the lock and leaves lets the next in the queue have it. -/
theorem State.queue_leave {t : Nat} (hholds : s.holds t) (hnodup : s.queue.Nodup) :
    s.queue = t :: (s.leave t).queue := by
  rw [State.holds_iff] at hholds
  unfold State.leave
  cases hqueue : s.queue with
  | nil =>
    rw [hqueue] at hholds
    cases hholds
  | cons first rest =>
    rw [hqueue] at hholds hnodup
    cases hholds
    have hrest : ∀ t' ∈ rest, decide (t' ≠ t) = true := fun t' ht' =>
      decide_eq_true fun heq => (List.nodup_cons.mp hnodup).1 (heq ▸ ht')
    rw [List.filter_cons_of_neg (by simp), List.filter_eq_self.mpr hrest]

section

variable {names : List String} {phase : Nat → Standing}
  (hsane : Sane o call names history x.2.session phase)
  (hturns : Turns (call who) (phase who).phase (view (unnoted x)) φ.phase (view (unnoted y)))
  (hheeds : Heeds (call who) (phase who).1.1.2 x y)
  (hserves : Serves o (phase who).errand x φ.errand y) (hrecords : Records (phase who).2 x.1 y.1)

section

include hsane hheeds hrecords

/-- Only an acquire takes a context in hand, and it is the one it has launched. -/
theorem Sane.taken_turn (hhand : y.2.session.context = some c) :
    x.2.session.context = some c ∨
      call who = .acquire ∧ Move.notes (⟨who, x, y⟩ : NotedMove) = [⟨o.launcher, .ok c⟩] := by
  rcases hheeds.taken hhand who with hbefore | ⟨profile, options, hnotes⟩
  · exact .inl hbefore
  · have hopen := Records.question (m := ⟨who, x, y⟩) hrecords hnotes
    obtain ⟨hu, -, rfl, rfl⟩ := (hsane.resting who _ hopen).2.launcher
    exact .inr ⟨hu, hnotes⟩

theorem Sane.held_turn (hhand : y.2.session.context = some c) :
    Launched o (history ++ [⟨who, x, y⟩]) c := by
  rcases hsane.taken_turn hheeds hrecords hhand with hbefore | ⟨-, hnotes⟩
  · exact (hsane.held c hbefore).append _
  · exact ⟨_, List.mem_append_right _ (List.mem_singleton.mpr rfl), hnotes⟩

include hserves

theorem Sane.served_turn : Served o (history ++ [⟨who, x, y⟩]) who φ.errand := by
  have hbefore := (hsane.served who).append ⟨who, x, y⟩
  have hhand : ∀ c, y.2.session.context = some c → Held o (history ++ [⟨who, x, y⟩]) who c :=
    fun c hc => ⟨hsane.held_turn hheeds hrecords hc, _,
      List.mem_append_right _ (List.mem_singleton.mpr rfl), rfl, hc⟩
  have hopens : ∀ c page, (phase who).errand = .opening c →
      y.1.2 = x.1.2 ++ [⟨.browser (.newPage c), .ok page⟩] →
      Opened o (history ++ [⟨who, x, y⟩]) who page := by
    intro c page hopening hnote
    have hheld := hsane.served who
    rw [hopening] at hheld
    exact ⟨c, history, _, [], rfl, rfl, Move.notes_eq hnote, hheld⟩
  generalize hη : (phase who).errand = η at hserves hbefore
  generalize φ.errand = η' at hserves
  cases hserves with
  | find _ hc => exact hhand _ hc
  | take _ hc => exact hhand _ hc
  | opened hnote => exact hopens _ _ hη hnote
  | page => exact hbefore
  | serve => exact hbefore
  | wait | launch | refuse | finish | fail => trivial

include hturns

/-- A launch that fails ends its acquire. What it had of the session it gives back. -/
theorem Sane.failed_turn {profile : String} {options : Json} {fault : Fault}
    (hnotes : Move.notes (⟨who, x, y⟩ : NotedMove) =
      [⟨.browser (.launch profile options), .error fault⟩]) :
    call who = .acquire ∧ φ.errand = .over (.error (unlaunched fault)) ∧ Failed ⟨who, x, y⟩ := by
  have hopen := Records.question (m := ⟨who, x, y⟩) hrecords hnotes
  obtain ⟨hrests, herrand⟩ := hsane.resting who _ hopen
  obtain ⟨t, ht⟩ := hrests.2 profile options rfl
  obtain ⟨hu, hlaunching, -⟩ := herrand.launcher
  have hbare : x.2.session.context = none :=
    hsane.locked.bare who (by rw [Function.comp, ht]; trivial)
  have hholds : x.2.session.holds t := hsane.locked.inside who t (by rw [Function.comp, ht]; rfl)
  have hnone : y.2.session.context = none := by
    refine Option.eq_none_iff_forall_ne_some.mpr fun c hc => ?_
    rcases hsane.taken_turn hheeds hrecords hc with hbefore | ⟨-, hnotes'⟩
    · rw [hbare] at hbefore
      cases hbefore
    · rw [hnotes] at hnotes'
      simp at hnotes'
  rw [hlaunching] at hserves
  rw [ht] at hturns
  refine ⟨hu, hserves.of_launching hnotes, hnone, t, ?_⟩
  rcases hturns.of_launching with hleave | ⟨c, hhand⟩
  · have hqueue : y.2.session.queue = (x.2.session.leave t).queue := congrArg State.queue hleave
    rw [hqueue]
    exact State.queue_leave hholds hsane.nodup
  · exact nomatch hnone.symm.trans hhand

end

include hsane

theorem Sane.told_turn (hheeds : Heeds (call who) (phase who).1.1.2 x y) :
    y.2.session.told =
      ((history ++ [(⟨who, x, y⟩ : NotedMove)]).filter Falls).flatMap fun _ => names := by
  rw [(hheeds.tells who).2, hsane.told, hsane.observers, List.filter_append, List.flatMap_append]
  congr 1
  cases hfalls : Falls (⟨who, x, y⟩ : NotedMove)
  · rw [List.filter_cons_of_neg (by simp [hfalls])]
    rfl
  · rw [List.filter_cons_of_pos hfalls]
    exact (List.append_nil _).symm

theorem Sane.turn (hmoves : (Use.whole o (call who)).moves (phase who) x φ y) :
    Sane o call names (history ++ [⟨who, x, y⟩]) y.2.session (Function.update phase who φ) := by
  obtain ⟨⟨⟨hturns, hheeds, -⟩, hserves⟩, hrecords, hrests⟩ := hmoves
  constructor
  case locked =>
    rw [Function.comp_update]
    exact hsane.locked.turn hturns
  case nodup => exact hturns.locks.nodup hsane.locked.issued hsane.nodup
  case resting =>
    refine (Function.forall_update_iff phase fun i ψ => ∀ q, ψ.2 = some q → ψ.phase.Rests q ∧
      ψ.errand.Rests o (call i) q).mpr ⟨fun q hq => ?_, fun i _ => hsane.resting i⟩
    exact ⟨(hrests q hq).1.1, (hrests q hq).2⟩
  case held => exact fun c => hsane.held_turn hheeds hrecords
  case served =>
    refine (Function.forall_update_iff phase fun i ψ =>
      Served o (history ++ [⟨who, x, y⟩]) i ψ.errand).mpr ⟨?_, fun i _ => (hsane.served i).append _⟩
    exact hsane.served_turn hheeds hserves hrecords
  case observers => exact (hheeds.tells who).1.trans hsane.observers
  case told => exact hsane.told_turn hheeds
  case tells =>
    rw [List.forall_mem_append, List.forall_mem_singleton, ← hsane.observers]
    exact ⟨hsane.observers ▸ hsane.tells, (hheeds.tells who).2⟩
  case taken =>
    rw [List.forall_mem_append, List.forall_mem_singleton]
    exact ⟨hsane.taken, fun c => hsane.taken_turn hheeds hrecords⟩
  case failed =>
    rw [List.forall_mem_append, List.forall_mem_singleton]
    refine ⟨fun m hm profile options fault hnotes => ?_, fun profile options fault hnotes => ?_⟩
    · obtain ⟨hu, hover, hfailed⟩ := hsane.failed m hm profile options fault hnotes
      exact ⟨hu, update_of_not (P := fun ψ : Standing => ψ.errand = _) hover (hserves.ne_over _),
        hfailed⟩
    · rw [Function.update_self]
      exact hsane.failed_turn hturns hheeds hserves hrecords hnotes

end

theorem plays_sane {names failing : List String} {e : Site} {phase : Nat → Standing}
    (hsession : x.2.session = { State.initial with observers := names, failing })
    (hplays : Plays (climate call).noted (fun i => (call i).whole o) x history e phase) :
    Sane o call names history e.2.session phase := by
  induction hplays with
  | start =>
    rw [hsession]
    exact ⟨⟨fun _ _ => nofun, fun _ _ => nofun, fun _ _ _ => nofun, nofun, fun _ => nofun⟩,
      List.nodup_nil, fun _ _ => nofun, fun _ => nofun, fun _ => trivial, rfl, rfl, nofun, nofun,
      nofun⟩
  | turn who _ hmoves ih => exact ih.turn hmoves
  | happen _ hhappens ih =>
    rw [hhappens.1.1]
    exact ih

theorem whole_run (u : Use) (hcall : call i = u) (hadmits : (climate call).noted.admits i x) :
    (u.run o).Keeps (climate call).noted (u.whole o) (u.whole o).closes (u.whole o).start x x := by
  have hphases := ((keeps_run (o := o) u hcall hadmits).noted.both (heeds_run u x)).both
    (serves_run u x)
  refine Program.Keeps.remembers (fun _ => id) (hphases.mono ?_)
  intro result φ before now h
  exact Contract.closes_both (Contract.closes_both h.1.1 h.1.2) h.2

/-! ## Launching -/

/-- What is promised of any uses of one session, `names` being told when its context goes. -/
structure LaunchesSafely (o : Options) (call : Nat → Use) (names : List String)
    (history : List NotedMove)
    (e : Ensemble Pageflow.State Ask Ask.Reply (Contexts × List (Note Ask Ask.Reply)) Yield) :
    Prop where
  exclusive : ∀ i j profile profile' options options' next next',
    e.stage i = .asking (.browser (.launch profile options)) next →
    e.stage j = .asking (.browser (.launch profile' options')) next' → i = j
  /-- While the launcher is called no context is in hand. -/
  bare : ∀ i profile options next, e.stage i = .asking (.browser (.launch profile options)) next →
    e.site.2.session.context = none
  /-- An acquire whose launch fails says so and leaves no context and the lock to the next. -/
  failed : ∀ m ∈ history, ∀ profile options fault,
    m.notes = [⟨.browser (.launch profile options), .error fault⟩] → fault.isCancelled = false →
      call m.who = .acquire ∧ Failed m ∧ e.stage m.who =
        .ended (.error (.sessionLaunch ("Could not launch browser: " ++ fault.message)))
  /-- An acquire that is let in while no context is in hand launches again. -/
  relaunches : ∀ i ticket limit next, call i = .acquire →
    e.stage i = .asking (.await (.turn ticket) limit) next → e.site.2.session.context = none →
      ∀ came, Relaunches o (next (.ok came)) e.site.2
  /-- A context comes to hand by a launch. -/
  taken : ∀ m ∈ history, ∀ c, m.after.2.session.context = some c →
    m.before.2.session.context = some c ∨ call m.who = .acquire ∧ m.notes = [⟨o.launcher, .ok c⟩]
  /-- A page is handed over on a context that was launched and was in hand. -/
  pages : ∀ i page, e.stage i = .ended (.ok (.page page)) → Opened o history i page
  /-- When the session stops being live, whoever observes it is told once, and not otherwise. -/
  tells : ∀ m ∈ history, m.after.2.session.told =
    m.before.2.session.told ++ if Falls m then names else []
  told : e.site.2.session.told = (history.filter Falls).flatMap fun _ => names

variable {names failing : List String}
  {e : Ensemble Pageflow.State Ask Ask.Reply (Contexts × List (Note Ask Ask.Reply)) Yield}

section

variable {u : Use} {φ : Standing} {stage : Stage Pageflow.State Ask Ask.Reply Yield}
  (hstand : (u.whole o).Stands (climate call).noted stage φ)
include hstand

theorem launching_of_stands {profile : String} {options : Json}
    {next : Ask.Reply (.browser (.launch profile options)) → Activity Yield}
    (hstage : stage = .asking (.browser (.launch profile options)) next) :
    ∃ t, φ.phase = .launching t := by
  rw [hstage] at hstand
  exact hstand.1.1.1.1.2 profile options rfl

theorem over_of_ended {result : Result Yield} (hstage : stage = .ended result) :
    φ.errand = .over result := by
  rw [hstage] at hstand
  exact hstand.2

theorem ended_of_over {result : Result Yield} (hover : φ.errand = .over result) :
    stage = .ended result := by
  cases hstage : stage with
  | idle =>
    rw [hstage] at hstand
    rw [show φ = _ from hstand] at hover
    cases hover
  | asking q next =>
    rw [hstage] at hstand
    have hrests : φ.errand.Rests o u q := hstand.1.1.2
    rw [hover] at hrests
    exact hrests.elim
  | ended result' =>
    cases hover.symm.trans (over_of_ended hstand hstage)
    rfl

end

theorem LaunchesSafely.of_sane {phase : Nat → Standing}
    (hsane : Sane o call names history e.site.2.session phase)
    (hstands : ∀ i, ((call i).whole o).Stands (climate call).noted (e.stage i) (phase i))
    (halways : ∀ i, call i = .acquire → (e.stage i).Always (launchesWhenLetIn o)) :
    LaunchesSafely o call names history e := by
  constructor
  case exclusive =>
    intro i j profile profile' options options' next next' hi hj
    obtain ⟨t, ht⟩ := launching_of_stands (hstands i) hi
    obtain ⟨t', ht'⟩ := launching_of_stands (hstands j) hj
    exact hsane.locked.exclusive (by rw [Function.comp, ht]; rfl) (by rw [Function.comp, ht']; rfl)
  case bare =>
    intro i profile options next hi
    obtain ⟨t, ht⟩ := launching_of_stands (hstands i) hi
    exact hsane.locked.bare i (by rw [Function.comp, ht]; trivial)
  case failed =>
    intro m hm profile options fault hnotes hfails
    obtain ⟨hu, hover, hfailed⟩ := hsane.failed m hm profile options fault hnotes
    have hstage := ended_of_over (hstands m.who) hover
    rw [unlaunched, hfails] at hstage
    exact ⟨hu, hfailed, hstage⟩
  case relaunches =>
    intro i ticket limit next hu hstage hnone came
    have hnow := halways i hu
    rw [hstage] at hnow
    exact hnow.1 came _ hnone
  case taken => exact hsane.taken
  case pages =>
    intro i page hstage
    have hserved := hsane.served i
    rw [over_of_ended (hstands i) hstage] at hserved
    exact hserved
  case tells => exact hsane.tells
  case told => exact hsane.told

theorem launches_safely (o : Options) (call : Nat → Use) {x : Site}
    (hsession : x.2.session = { State.initial with observers := names, failing })
    (hreaches : Reaches (climate call).noted (fun i => (call i).run o) x history e) :
    LaunchesSafely o call names history e := by
  obtain ⟨phase, hplays, hstands⟩ := hreaches.plays (fun i => (call i).whole o)
    (fun i y hadmits _ => whole_run (call i) rfl hadmits)
    (fun _ _ _ _ _ => ⟨⟨trivial, trivial⟩, trivial⟩)
  refine .of_sane (plays_sane hsession hplays) hstands fun i hu => hreaches.always fun s => ?_
  rw [hu]
  exact acquire_launchesWhenLetIn s

end

/-- A browser that launches a context and opens a page on it. -/
def granting (c : ContextRef) (page : PageRef) : (q : Ask) → Ask.Reply q
  | .await _ _ => .ok true
  | .browser (.launch _ _) => .ok c
  | .browser (.newPage _) => .ok page
  | .page _ (.setTimeout _) | .page _ (.setNavigationTimeout _) => .ok ()
  | q => q.refused

/-- The first launch fails, the second acquire launches again, and then its context is closed. One
of the two observers fails when it is told. -/
theorem launches_safely_relaunch : ∃ history e, Reaches (climate twoAcquires).noted
    (fun i => (twoAcquires i).run { profile := "profile", driven := false })
    ((⟨[], []⟩, []),
      { session := { State.initial with observers := ["broken", "owner"], failing := ["broken"] } })
    history e ∧
      e.stage 0 = .ended (.error (.sessionLaunch "Could not launch browser: Not offered")) ∧
      e.stage 1 = .ended (.ok (.page ⟨0⟩)) ∧ e.site.2.session.told = ["broken", "owner"] ∧
      LaunchesSafely { profile := "profile", driven := false } twoAcquires ["broken", "owner"]
        history e := by
  have hstart : Reaches (climate twoAcquires).noted
      (fun i => (twoAcquires i).run { profile := "profile", driven := false })
      ((⟨[], []⟩, []), { session :=
        { State.initial with observers := ["broken", "owner"], failing := ["broken"] } }) [] _ :=
    .start
  have hwait : (climate twoAcquires).noted.Settles fun _ => none :=
    ⟨fun _ _ => id, fun _ _ hnow => by cases hnow⟩
  have hqueued := hstart.call hwait 0 rfl nofun
  have hlocked := hqueued.reply hwait 0 rfl (refusing ⟨0⟩) (⟨[], []⟩, _)
    ⟨⟨rfl, fun _ _ => rfl⟩, rfl⟩
  have hlaunching := hlocked.reply hwait 0 rfl (refusing ⟨0⟩) (⟨[], []⟩, _) ⟨rfl, rfl⟩
  have hfailed := hlaunching.reply hwait 0 rfl Ask.refused (⟨[], []⟩, _) ⟨rfl, rfl⟩
  have hqueued' := hfailed.call hwait 1 rfl nofun
  have hlocked' := hqueued'.reply hwait 1 rfl (granting ⟨0⟩ ⟨0⟩) (⟨[], []⟩, _)
    ⟨⟨rfl, fun _ _ => rfl⟩, rfl⟩
  have hlaunching' := hlocked'.reply hwait 1 rfl (granting ⟨0⟩ ⟨0⟩) (⟨[], []⟩, _) ⟨rfl, rfl⟩
  have hlaunched := hlaunching'.reply hwait 1 rfl (granting ⟨0⟩ ⟨0⟩) (⟨[⟨0⟩], []⟩, _)
    ⟨⟨nofun, rfl⟩, rfl⟩
  have hopened := hlaunched.reply hwait 1 rfl (granting ⟨0⟩ ⟨0⟩) (⟨[⟨0⟩], []⟩, _) ⟨rfl, rfl⟩
  have htimed := hopened.reply hwait 1 rfl (granting ⟨0⟩ ⟨0⟩) (⟨[⟨0⟩], []⟩, _) ⟨rfl, rfl⟩
  have hserved := htimed.reply hwait 1 rfl (granting ⟨0⟩ ⟨0⟩) (⟨[⟨0⟩], []⟩, _) ⟨rfl, rfl⟩
  have hgone : Reaches (climate twoAcquires).noted _ _ _ ⟨((⟨[⟨0⟩], [⟨0⟩]⟩, _), _), _⟩ :=
    hserved.happen ⟨⟨rfl, rfl, nofun⟩, rfl⟩
  have htold := hgone.call hwait 2 rfl (by rintro c ⟨⟩; exact List.mem_singleton.mpr rfl)
  exact ⟨_, _, htold, rfl, rfl, rfl, launches_safely _ _ rfl htold⟩

end Pageflow.Session
