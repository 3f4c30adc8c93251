import Pageflow.Proofs.Session.Lock

/-! How many contexts are open. A context that the launcher has returned is in
hand, closed, or was let go of while it was open; the last is what it takes for
the browser to be launched a second time on the profile. -/
namespace Pageflow.Session
open Browser

abbrev History : Type := List (Move Pageflow.State Contexts)

/-- A turn lets go of a context that is open after it. -/
def Strands (m : Move Pageflow.State Contexts) (c : ContextRef) : Prop :=
  m.before.2.session.context = some c ∧ m.after.2.session.context ≠ some c ∧
    c ∉ m.after.1.closed

/-- Everything that the launcher has returned is closed. -/
def Contexts.AllClosed (w : Contexts) : Prop := ∀ c ∈ w.returned, c ∈ w.closed

/-- What was let go of while it was open has been closed since. -/
def Recovered (history : History) (w : Contexts) : Prop :=
  ∀ m ∈ history, ∀ c, Strands m c → c ∈ w.closed

/-- Some acquire has had a turn since the last turn of use `i`. -/
def AcquiredSince (call : Nat → Use) (history : History) (i : Nat) : Prop :=
  ∃ earlier m later, history = earlier ++ m :: later ∧ call m.who = .acquire ∧
    ∀ m' ∈ later, m'.who ≠ i

/-- Where every context stands, and why one was let go of while it was open. -/
structure Accounted (call : Nat → Use) (history : History) (w : Contexts) (s : State)
    (phase : Nat → Phase) : Prop where
  held : ∀ c, s.context = some c → c ∈ w.returned
  returned : ∀ c ∈ w.returned, s.context = some c ∨ c ∈ w.closed ∨
    ∃ m ∈ history, Strands m c
  stranded : ∀ m ∈ history, ∀ c, Strands m c → c ∈ w.returned
  causes : ∀ m ∈ history, ∀ c, Strands m c →
    call m.who = .acquire ∧ phase m.who = .stale ∨ call m.who = .close ∨
      ∃ c', c' ≠ c ∧ call m.who = .closed c'
  shut : ∀ i, phase i = .shut → s.context = none ∨ AcquiredSince call history i
  closing : ∀ i, call i = .close → phase i ≠ .finished

section

variable {u : Use} {φ φ' : Phase} {x y : Contexts × State}

theorem Turns.closed_subset (hturns : Turns u φ x φ' y) : ∀ c ∈ x.1.closed, c ∈ y.1.closed := by
  cases hturns with
  | dropStop _ hclosed | dropShut _ hclosed => exact hclosed
  | _ => exact fun _ => id

theorem Turns.ne_stale (hturns : Turns u φ x φ' y) : φ ≠ .stale := by
  cases hturns with
  | abandon hticket =>
    rintro rfl
    cases hticket
  | _ => exact nofun

/-- Only a refused page, the end of a session and the news of another context
let go of a context that stays open. -/
theorem Turns.strands (hturns : Turns u φ x φ' y) (hbare : φ.Bare → x.2.context = none)
    {c : ContextRef} (hbefore : x.2.context = some c) (hafter : y.2.context ≠ some c)
    (hopen : c ∉ y.1.closed) :
    u = .acquire ∧ φ' = .stale ∨ u = .close ∨ ∃ c', c' ≠ c ∧ u = .closed c' := by
  cases hturns with
  | refused => exact .inl ⟨rfl, rfl⟩
  | dropStop | dropShut => exact .inr (.inl rfl)
  | told hclosed =>
    refine .inr (.inr ⟨_, ?_, rfl⟩)
    rintro rfl
    exact hopen hclosed
  | take =>
    rw [hbare trivial] at hbefore
    cases hbefore
  | _ => exact absurd hbefore hafter

theorem Turns.context_of_ne_acquire (hturns : Turns u φ x φ' y) (hu : u ≠ .acquire)
    (hnone : x.2.context = none) : y.2.context = none := by
  rcases hturns.context with ⟨_, _, hlaunching, -⟩ | ⟨hsame | hnone', -⟩
  · subst hlaunching
    cases hturns with
    | take => exact absurd rfl hu
    | abandon => exact hnone
  · exact hsame.trans hnone
  · exact hnone'

theorem Turns.shut (hturns : Turns u φ x .shut y) (hbare : φ.Bare → x.2.context = none) :
    y.2.context = none := by
  cases hturns with
  | idle _ hnone => exact hnone
  | dropShut => simp [State.leave]
  | stopped => exact hbare trivial

theorem Turns.ne_finished (hturns : Turns .close φ x φ' y) : φ' ≠ .finished := by
  rintro rfl
  cases hturns with
  | paged hu => exact hu rfl

end

section

variable {call : Nat → Use} {history : History} {x y : Contexts × Pageflow.State}
  {phase : Nat → Phase} {who : Nat} {φ : Phase}

theorem AcquiredSince.append {i : Nat} (h : AcquiredSince call history i) (hwho : who ≠ i) :
    AcquiredSince call (history ++ [⟨who, x, y⟩]) i := by
  obtain ⟨earlier, m, later, rfl, hacquire, hlater⟩ := h
  refine ⟨earlier, m, later ++ [⟨who, x, y⟩], by simp, hacquire, fun m' hm' => ?_⟩
  rcases List.mem_append.mp hm' with hold | hnow
  · exact hlater m' hold
  · rw [List.mem_singleton.mp hnow]
    exact hwho

theorem acquiredSince_append {i : Nat} (hacquire : call who = .acquire) :
    AcquiredSince call (history ++ [⟨who, x, y⟩]) i :=
  ⟨history, _, [], rfl, hacquire, nofun⟩

theorem Turns.returned_subset (hturns : Turns (call who) (phase who) (view x) φ (view y)) :
    ∀ c ∈ x.1.returned, c ∈ y.1.returned := by
  intro c hc
  rcases hturns.context with ⟨_, c', -, -, hlaunch, -⟩ | ⟨-, hreturned⟩
  · rw [show y.1 = x.1.launch c' from hlaunch]
    exact List.mem_append_left _ hc
  · rwa [show y.1.returned = x.1.returned from hreturned]

/-- A context returned by a turn is the one in hand. -/
theorem Turns.returned_before (hturns : Turns (call who) (phase who) (view x) φ (view y))
    {c : ContextRef} (hc : c ∈ y.1.returned) (hhand : y.2.session.context ≠ some c) :
    c ∈ x.1.returned := by
  rcases hturns.context with ⟨_, c', -, -, hlaunch, hhand'⟩ | ⟨-, hreturned⟩
  · rw [show y.1 = x.1.launch c' from hlaunch] at hc
    rcases List.mem_append.mp hc with hold | hnow
    · exact hold
    · rw [List.mem_singleton.mp hnow] at hhand
      exact absurd hhand' hhand
  · rwa [show y.1.returned = x.1.returned from hreturned] at hc

theorem Accounted.held_turn (haccounted : Accounted call history x.1 x.2.session phase)
    (hturns : Turns (call who) (phase who) (view x) φ (view y)) {c : ContextRef}
    (hc : y.2.session.context = some c) : c ∈ y.1.returned := by
  rcases hturns.context with ⟨_, c', -, -, hlaunch, hhand⟩ | ⟨hsame | hnone, -⟩
  · rw [show y.2.session.context = some c' from hhand] at hc
    cases hc
    rw [show y.1 = x.1.launch c from hlaunch]
    exact List.mem_append_right _ (List.mem_singleton.mpr rfl)
  · exact hturns.returned_subset c (haccounted.held c (hsame.symm.trans hc))
  · rw [show y.2.session.context = none from hnone] at hc
    cases hc

theorem Accounted.turn (haccounted : Accounted call history x.1 x.2.session phase)
    (hlocked : Locked x.2.session phase)
    (hturns : Turns (call who) (phase who) (view x) φ (view y)) :
    Accounted call (history ++ [⟨who, x, y⟩]) y.1 y.2.session (Function.update phase who φ) where
  held _ := haccounted.held_turn hturns
  returned c hc := by
    by_cases hhand : y.2.session.context = some c
    · exact .inl hhand
    by_cases hgone : c ∈ y.1.closed
    · exact .inr (.inl hgone)
    refine .inr (.inr ?_)
    rcases haccounted.returned c (hturns.returned_before hc hhand) with
      hbefore | hbefore | ⟨m, hm, hstrands⟩
    · exact ⟨_, List.mem_append_right _ (List.mem_singleton.mpr rfl), hbefore, hhand, hgone⟩
    · exact absurd (hturns.closed_subset c hbefore) hgone
    · exact ⟨m, List.mem_append_left _ hm, hstrands⟩
  stranded := by
    rw [List.forall_mem_append, List.forall_mem_singleton]
    refine ⟨fun m hm c hstrands => ?_, fun c hstrands => ?_⟩
    · exact hturns.returned_subset c (haccounted.stranded m hm c hstrands)
    · exact hturns.returned_subset c (haccounted.held c hstrands.1)
  causes := by
    rw [List.forall_mem_append, List.forall_mem_singleton]
    refine ⟨fun m hm c hstrands => ?_, fun c hstrands => ?_⟩
    · rcases haccounted.causes m hm c hstrands with ⟨hacquire, hstale⟩ | hcause
      · exact .inl ⟨hacquire, update_of_not (P := fun ψ : Phase => ψ = .stale) hstale
          hturns.ne_stale⟩
      · exact .inr hcause
    · rw [Function.update_self]
      exact hturns.strands (hlocked.bare who) hstrands.1 hstrands.2.1 hstrands.2.2
  shut i hi := by
    by_cases hwho : i = who
    · subst hwho
      rw [Function.update_self] at hi
      subst hi
      exact .inl (hturns.shut (hlocked.bare i))
    · rw [Function.update_of_ne hwho] at hi
      by_cases hacquire : call who = .acquire
      · exact .inr (acquiredSince_append hacquire)
      · rcases haccounted.shut i hi with hnone | hsince
        · exact .inl (hturns.context_of_ne_acquire hacquire hnone)
        · exact .inr (hsince.append (Ne.symm hwho))
  closing i hi := by
    by_cases hwho : i = who
    · subst hwho
      rw [hi] at hturns
      rw [Function.update_self]
      exact hturns.ne_finished
    · rw [Function.update_of_ne hwho]
      exact haccounted.closing i hi

theorem Accounted.happen (haccounted : Accounted call history x.1 x.2.session phase)
    (hhappens : (climate call).happens x y) :
    Accounted call history y.1 y.2.session phase := by
  obtain ⟨hsession, hreturned, hclosed⟩ := hhappens
  constructor
  · rw [hsession, hreturned]
    exact haccounted.held
  · intro c hc
    rw [hreturned] at hc
    rw [hsession]
    rcases haccounted.returned c hc with hhand | hgone | hstrands
    · exact .inl hhand
    · exact .inr (.inl (hclosed c hgone))
    · exact .inr (.inr hstrands)
  · rw [hreturned]
    exact haccounted.stranded
  · exact haccounted.causes
  · rw [hsession]
    exact haccounted.shut
  · exact haccounted.closing

theorem plays_accounted {e : Contexts × Pageflow.State} (hsession : x.2.session = .initial)
    (hreturned : x.1.returned = [])
    (hplays : Plays (climate call) (fun i => (call i).contract) x history e phase) :
    Locked e.2.session phase ∧ Accounted call history e.1 e.2.session phase := by
  induction hplays with
  | start =>
    rw [hsession]
    refine ⟨⟨fun _ _ => nofun, fun _ _ => nofun, fun _ _ _ => nofun, nofun, fun _ => nofun⟩, ?_⟩
    constructor
    · exact nofun
    · rw [hreturned]
      exact nofun
    · exact nofun
    · exact nofun
    · exact fun _ => nofun
    · exact fun _ _ => nofun
  | turn who _ hturns ih => exact ⟨ih.1.turn hturns, ih.2.turn ih.1 hturns⟩
  | happen _ hhappens ih =>
    refine ⟨?_, ih.2.happen hhappens⟩
    rw [hhappens.1]
    exact ih.1

/-- With no context in hand, what the launcher has returned is closed exactly if
what was let go of is. -/
theorem Accounted.allClosed_iff (haccounted : Accounted call history x.1 x.2.session phase)
    (hnone : x.2.session.context = none) : x.1.AllClosed ↔ Recovered history x.1 := by
  constructor
  · intro hall m hm c hstrands
    exact hall c (haccounted.stranded m hm c hstrands)
  · intro hrecovered c hc
    rcases haccounted.returned c hc with hhand | hgone | ⟨m, hm, hstrands⟩
    · rw [hnone] at hhand
      cases hhand
    · exact hgone
    · exact hrecovered m hm c hstrands

/-- When at most one context is open. -/
structure OneContext (call : Nat → Use) (history : History)
    (e : Ensemble Pageflow.State Ask Ask.Reply Contexts Yield) : Prop where
  /-- While the launcher is called, what it returned before is closed exactly if
  no context that was let go of is still open. -/
  launches : ∀ i profile options next,
    e.stage i = .asking (.browser (.launch profile options)) next →
    (e.site.1.AllClosed ↔ Recovered history e.site.1)
  /-- The same holds after the session was closed, until the next acquire. -/
  closes : ∀ i, call i = .close → e.stage i = .ended (.ok .nothing) →
    ¬ AcquiredSince call history i → (e.site.1.AllClosed ↔ Recovered history e.site.1)
  /-- A context is let go of while it is open by an acquire to which the browser
  refuses a page, by a close that the browser fails, or by the news that another
  context was closed. -/
  strands : ∀ m ∈ history, ∀ c, Strands m c →
    (call m.who = .acquire ∧ ∃ message, e.stage m.who = .ended (.error (.staleSession message))) ∨
      call m.who = .close ∨ ∃ c', c' ≠ c ∧ call m.who = .closed c'

/-- Any uses of one session, in any order of their turns, with any failures of
the browser and any contexts closing at any time. -/
theorem one_context_iff (o : Options) (call : Nat → Use) {x : Contexts × Pageflow.State}
    (hsession : x.2.session = .initial) (hreturned : x.1.returned = []) {history : History}
    {e : Ensemble Pageflow.State Ask Ask.Reply Contexts Yield}
    (hreaches : Reaches (climate call) (fun i => (call i).run o) x history e) :
    OneContext call history e := by
  obtain ⟨phase, hplays, hstands⟩ := hreaches.plays (fun i => (call i).contract)
    (fun i y hadmits _ => keeps_run (call i) rfl hadmits) (fun _ _ _ _ _ => trivial)
  obtain ⟨hlocked, haccounted⟩ := plays_accounted hsession hreturned hplays
  constructor
  · intro i profile options next hstage
    have hstand := hstands i
    rw [hstage] at hstand
    obtain ⟨t, hlaunching⟩ := hstand.1.2 profile options rfl
    exact haccounted.allClosed_iff (hlocked.bare i (by rw [hlaunching]; trivial))
  · intro i hcall hstage hundisturbed
    have hstand := hstands i
    rw [hstage] at hstand
    have hshut : phase i = .shut := by
      cases hphase : phase i with
      | shut => rfl
      | finished => exact absurd hphase (haccounted.closing i hcall)
      | stale | failed =>
        rw [hphase] at hstand
        exact nomatch hstand
      | _ =>
        rw [hphase] at hstand
        exact hstand.elim
    rcases haccounted.shut i hshut with hnone | hsince
    · exact haccounted.allClosed_iff hnone
    · exact absurd hsince hundisturbed
  · intro m hm c hstrands
    rcases haccounted.causes m hm c hstrands with ⟨hacquire, hstale⟩ | hcause
    · refine .inl ⟨hacquire, ?_⟩
      have hstand := hstands m.who
      cases hstage : e.stage m.who with
      | idle =>
        rw [hstage, hstale] at hstand
        cases hstand
      | asking q next =>
        rw [hstage, hstale] at hstand
        exact hstand.1.1.elim
      | ended result =>
        rw [hstage, hstale] at hstand
        obtain ⟨message, rfl⟩ := hstand
        exact ⟨message, rfl⟩
    · exact .inr hcause

end

/-- A browser that launches a context and refuses every page. -/
def refusing (c : ContextRef) : (q : Ask) → Ask.Reply q
  | .await _ _ => .ok true
  | .browser (.launch _ _) => .ok c
  | q => q.refused

/-- Two acquires: the first is refused a page on the context it has launched, and
the second launches again. -/
theorem reaches_relaunch : ∃ history e, Reaches (climate fun _ => .acquire)
    (fun _ => Use.acquire.run { profile := "profile", driven := false }) (⟨[], []⟩, {}) history e ∧
      (∃ options next, e.stage 1 = .asking (.browser (.launch "profile" options)) next) ∧
      e.site.1 = ⟨[⟨0⟩], []⟩ := by
  have hstart : Reaches (climate fun _ => .acquire)
      (fun _ => Use.acquire.run { profile := "profile", driven := false }) (⟨[], []⟩, {}) [] _ :=
    .start
  have hwait : (climate fun _ => Use.acquire).Settles fun _ => none :=
    ⟨fun _ _ => id, fun _ _ hnow => by cases hnow⟩
  have hqueued := hstart.call hwait 0 rfl nofun
  have hlocked := hqueued.reply hwait 0 rfl (refusing ⟨0⟩) ⟨[], []⟩ ⟨rfl, fun _ _ => rfl⟩
  have hlaunching := hlocked.reply hwait 0 rfl (refusing ⟨0⟩) ⟨[], []⟩ rfl
  have hlaunched := hlaunching.reply hwait 0 rfl (refusing ⟨0⟩) ⟨[⟨0⟩], []⟩ ⟨nofun, rfl⟩
  have hrefused := hlaunched.reply hwait 0 rfl (refusing ⟨0⟩) ⟨[⟨0⟩], []⟩ rfl
  have hqueued' := hrefused.call hwait 1 rfl nofun
  have hlocked' := hqueued'.reply hwait 1 rfl (refusing ⟨0⟩) ⟨[⟨0⟩], []⟩
    ⟨rfl, fun _ _ => rfl⟩
  have hlaunching' := hlocked'.reply hwait 1 rfl (refusing ⟨0⟩) ⟨[⟨0⟩], []⟩ rfl
  exact ⟨_, _, hlaunching', ⟨_, _, rfl⟩, rfl⟩

theorem one_context_iff_relaunch : ∃ history e, Reaches (climate fun _ => .acquire)
    (fun _ => Use.acquire.run { profile := "profile", driven := false }) (⟨[], []⟩, {}) history e ∧
      OneContext (fun _ => .acquire) history e := by
  obtain ⟨history, e, hreaches, -⟩ := reaches_relaunch
  exact ⟨history, e, hreaches, one_context_iff _ _ rfl rfl hreaches⟩

/-- The launcher is called although the context it returned before is open. -/
theorem relaunch_not_allClosed : ∃ history e, Reaches (climate fun _ => .acquire)
    (fun _ => Use.acquire.run { profile := "profile", driven := false }) (⟨[], []⟩, {}) history e ∧
      (∃ options next, e.stage 1 = .asking (.browser (.launch "profile" options)) next) ∧
      ¬ e.site.1.AllClosed := by
  obtain ⟨history, e, hreaches, hlaunching, hcontexts⟩ := reaches_relaunch
  refine ⟨history, e, hreaches, hlaunching, fun hall => ?_⟩
  rw [hcontexts] at hall
  exact nomatch hall ⟨0⟩ (List.mem_singleton.mpr rfl)

end Pageflow.Session
