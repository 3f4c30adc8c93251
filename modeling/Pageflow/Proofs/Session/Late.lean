import Pageflow.Proofs.Session.Contexts
import Pageflow.Proofs.Session.News

/-! News of a context that is no longer in hand. The session lets go of whichever context is
in hand, so its successor goes unless nothing is in hand when the news comes. -/
namespace Pageflow.Session
open Browser

abbrev NotedMove : Type := Move Pageflow.State (Contexts × List (Note Ask Ask.Reply))

/-- What is heard in a turn. -/
def heard (call : Nat → Use) (m : NotedMove) : Option News :=
  match m.notes with
  | ⟨q, r⟩ :: _ => news q r
  | [] => (call m.who).news

/-- A context is let go of only on news of that context, and news of another leaves it, the
session's being live and the observers as they were. -/
structure Confined (n : Option News) (s s' : State) : Prop where
  own : ∀ c, s.context = some c → s'.context ≠ some c → ∃ k, n = some k ∧ k.context = c
  others : ∀ k, n = some k → s.context ≠ some k.context → s'.isLive = s.isLive ∧ Same s s'

/-- A context was closed, or a page on it refused, while another is in hand. -/
def Late (n : Option News) (s : State) : Prop :=
  ∃ c c', s.context = some c ∧ c' ≠ c ∧ (n = some (.closed c') ∨ n = some (.refused c'))

section

variable {n : Option News} {l : Option ContextRef} {s s' : State} {k : News} {c : ContextRef}

theorem Same.isLive (h : Same s s') : s'.isLive = s.isLive := by
  rw [State.isLive, State.isLive, h.context]

theorem drop_of_none (h : s.context = none) : s.drop = s := by
  rw [State.drop, if_neg]
  simp [State.isLive, h]

theorem not_confined_of_late (h : Same (s.after n l) s') (hlate : Late n s) :
    ¬ Confined n s s' := by
  rintro ⟨-, hothers⟩
  obtain ⟨c, c', hhand, hne, hnews⟩ := hlate
  have hkept : s'.context = some c ∧ s'.context = none := by
    rcases hnews with rfl | rfl <;>
      exact ⟨(hothers _ rfl (by simpa [hhand, News.context] using hne.symm)).2.context.trans hhand,
        h.context.trans State.context_drop⟩
  rw [hkept.1] at hkept
  exact nomatch hkept.2

theorem confined_of_not_late (h : Same (s.after n l) s')
    (hquiet : n = none → ∀ c, s.context = some c → s'.context = some c)
    (hclosing : ∀ c, n = some (.closing c) → s.context = some c ∨ s.context = none)
    (hlate : ¬ Late n s) : Confined n s s' := by
  have habout : ∀ k c, n = some k → s.context = some c → k.context = c := by
    rintro (c' | c' | c') c rfl hhand
    · by_contra hne
      exact hlate ⟨c, c', hhand, hne, .inl rfl⟩
    · by_contra hne
      exact hlate ⟨c, c', hhand, hne, .inr rfl⟩
    · rcases hclosing c' rfl with h | h <;> rw [hhand] at h
      · exact (Option.some.inj h).symm
      · cases h
  constructor
  · intro c hhand hgone
    cases n with
    | none => exact absurd (hquiet rfl c hhand) hgone
    | some k => exact ⟨k, rfl, habout k c rfl hhand⟩
  · rintro k rfl hother
    have hnone : s.context = none := by
      by_contra hne
      obtain ⟨c, hhand⟩ := Option.ne_none_iff_exists'.mp hne
      exact hother (hhand.trans (congrArg some (habout k c rfl hhand).symm))
    have hsame : Same s s' := by rwa [State.after, drop_of_none hnone] at h
    exact ⟨hsame.isLive, hsame⟩

end

section

variable {call : Nat → Use} {x y : Site} {ψ : Place} {who : Nat} {n : Option News}

theorem news_closing {q : Ask} {r : Ask.Reply q} {c : ContextRef}
    (h : news q r = some (.closing c)) : q = .browser (.closeContext c) := by
  unfold news at h
  split at h
  · split at h
    · cases h
    · split at h <;> cases h
  · split at h
    · cases h
      rfl
    · split at h <;> cases h
      rfl
  · cases h

theorem Heeds.heard (h : Heeds (call who) ψ x y) :
    (∃ l, Same (x.2.session.after (heard call ⟨who, x, y⟩) l) y.2.session) ∧
      ∀ c, heard call ⟨who, x, y⟩ = some (.closing c) → call who = .close ∧ ψ = .left (some c) := by
  cases ψ with
  | fresh =>
    have hnotes : Move.notes (⟨who, x, y⟩ : NotedMove) = [] := by simp [Move.notes, h.1]
    have hheard : Session.heard call ⟨who, x, y⟩ = (call who).news := by
      rw [Session.heard, hnotes]
    rw [hheard]
    refine ⟨⟨none, h.2⟩, fun c hc => ?_⟩
    cases hu : call who <;> rw [hu] at hc <;> cases hc
  | left hand =>
    obtain ⟨q, r, hadded, hclose, hafter⟩ := h
    have hnotes : Move.notes (⟨who, x, y⟩ : NotedMove) = [⟨q, r⟩] := by simp [Move.notes, hadded]
    have hheard : Session.heard call ⟨who, x, y⟩ = news q r := by
      rw [Session.heard, hnotes]
    rw [hheard]
    refine ⟨⟨_, hafter⟩, fun c hc => ?_⟩
    obtain ⟨hu, rfl⟩ := hclose c (news_closing hc)
    exact ⟨hu, rfl⟩

/-- Phases and places as the uses of one session have them. -/
structure Placed (s : State) (phase : Nat → Phase × Place) : Prop where
  locked : Locked s (Prod.fst ∘ phase)
  /-- While a context is being closed, no other is taken in hand. -/
  closing : ∀ i t hand, (phase i).1 = .closing t → (phase i).2 = .left hand →
    s.context = hand ∨ s.context = none

variable {phase : Nat → Phase × Place} {φ : Phase × Place}

theorem Placed.turn (hplaced : Placed x.2.session phase)
    (hturns : Turns (call who) (phase who).1 (x.1.1, x.2.session) φ.1 (y.1.1, y.2.session))
    (hplace : φ.2 = .left y.2.session.context) :
    Placed y.2.session (Function.update phase who φ) where
  locked := by
    rw [Function.comp_update]
    exact hplaced.locked.turn hturns
  closing i t hand hi hhand := by
    by_cases hwho : i = who
    · subst hwho
      rw [Function.update_self, hplace] at hhand
      cases hhand
      exact .inl rfl
    · rw [Function.update_of_ne hwho] at hi hhand
      have hinside : (phase i).1.inside? = some t := by rw [hi]; rfl
      rcases hturns.context with ⟨t', _, hlaunching, -⟩ | ⟨hsame | hnone, -⟩
      · -- a launch is under the lock too, and only one use has it
        have hwho' : (phase who).1.inside? = some t' := by rw [hlaunching]; rfl
        exact absurd (hplaced.locked.exclusive hinside hwho') hwho
      · rw [show y.2.session.context = x.2.session.context from hsame]
        exact hplaced.closing i t hand hi hhand
      · exact .inr hnone

/-- A turn in which a closing owner lets go of a context. -/
theorem Turns.closing {φ φ' : Phase} {v z : Contexts × State} (hturns : Turns .close φ v φ' z)
    (hgone : z.2.context ≠ v.2.context) : ∃ t, φ = .closing t := by
  cases hturns with
  | dropStop | dropShut => exact ⟨_, rfl⟩
  | _ => exact absurd rfl hgone

theorem Placed.confined (hplaced : Placed x.2.session phase)
    (hturns : Turns (call who) (phase who).1 (x.1.1, x.2.session) φ.1 (y.1.1, y.2.session))
    (hheeds : Heeds (call who) (phase who).2 x y) :
    Confined (heard call ⟨who, x, y⟩) x.2.session y.2.session ↔
      ¬ Late (heard call ⟨who, x, y⟩) x.2.session := by
  obtain ⟨⟨l, hafter⟩, hclose⟩ := hheeds.heard
  refine ⟨fun hconfined hlate => not_confined_of_late hafter hlate hconfined,
    confined_of_not_late hafter (fun hnews c hhand => ?_) fun c hnews => ?_⟩
  · rw [hnews] at hafter
    rcases hturns.context with ⟨t, _, hlaunching, -⟩ | ⟨hsame | hnone, -⟩
    · -- a context is launched only while none is in hand
      have hbare := hplaced.locked.bare who (by rw [Function.comp, hlaunching]; trivial)
      rw [hbare] at hhand
      cases hhand
    · exact hsame.trans hhand
    · cases l with
      | none => exact hafter.context.trans hhand
      | some c' =>
        exact absurd (hafter.context.symm.trans hnone) nofun
  · obtain ⟨hu, hleft⟩ := hclose c hnews
    rw [hu] at hturns
    rw [hnews] at hafter
    have hgone : y.2.session.context = none := hafter.context.trans State.context_drop
    -- `Turns` tells which phase the owner is in, and the phase where its question was asked
    by_cases hnone : x.2.session.context = none
    · exact .inr hnone
    · obtain ⟨t, ht⟩ := hturns.closing fun hsame => hnone (hsame.symm.trans hgone)
      exact hplaced.closing who t _ ht hleft

theorem plays_confined {names : List String} {history : List NotedMove} {e : Site}
    (hsession : x.2.session = { State.initial with observers := names })
    (hplays : Plays (climate call).noted (fun i => (call i).contract.noted.both (call i).heeding) x
      history e phase) :
    Placed e.2.session phase ∧ ∀ m ∈ history,
      (Confined (heard call m) m.before.2.session m.after.2.session ↔
        ¬ Late (heard call m) m.before.2.session) := by
  induction hplays with
  | start =>
    rw [hsession]
    exact ⟨⟨⟨fun _ _ => nofun, fun _ _ => nofun, fun _ _ _ => nofun, nofun, fun _ => nofun⟩,
      fun _ _ _ => nofun⟩, nofun⟩
  | turn who _ hmoves ih =>
    obtain ⟨hturns, hheeds, hplace⟩ := hmoves
    refine ⟨ih.1.turn hturns hplace, ?_⟩
    rw [List.forall_mem_append, List.forall_mem_singleton]
    exact ⟨ih.2, ih.1.confined hturns hheeds⟩
  | happen _ hhappens ih =>
    refine ⟨?_, ih.2⟩
    rw [hhappens.1.1]
    exact ih.1

end

/-- Any uses of one session, in any order of their turns: news stays with the context it is
about exactly as long as it does not come late. -/
theorem confined_iff (o : Options) (call : Nat → Use) {names : List String} {x : Site}
    (hsession : x.2.session = { State.initial with observers := names })
    {history : List NotedMove}
    {e : Ensemble Pageflow.State Ask Ask.Reply (Contexts × List (Note Ask Ask.Reply)) Yield}
    (hreaches : Reaches (climate call).noted (fun i => (call i).run o) x history e) :
    ∀ m ∈ history, (Confined (heard call m) m.before.2.session m.after.2.session ↔
      ¬ Late (heard call m) m.before.2.session) := by
  obtain ⟨phase, hplays, -⟩ := hreaches.plays
    (fun i => (call i).contract.noted.both (call i).heeding)
    (fun i y hadmits _ => ((keeps_run (call i) rfl hadmits).noted.both
      (heeds_run (call i) y)).mono fun _ _ _ _ h => Contract.closes_both h.1 h.2)
    (fun _ _ _ _ _ => ⟨trivial, trivial⟩)
  exact (plays_confined hsession hplays).2

/-- Two acquires, and the news that the first context was closed. -/
def twoAcquires : Nat → Use
  | 2 => .closed ⟨0⟩
  | _ => .acquire

/-- A page is refused on the first context, the next acquire launches a second one, and only
then the session hears that the first was closed. -/
theorem reaches_late : ∃ history e, Reaches (climate twoAcquires).noted
    (fun i => (twoAcquires i).run { profile := "profile", driven := false })
    ((⟨[], []⟩, []), { session := { State.initial with observers := ["owner"] } }) history e ∧
      ∃ m ∈ history, heard twoAcquires m = some (.closed ⟨0⟩) ∧
        m.before.2.session.context = some ⟨1⟩ ∧ m.after.2.session.context = none := by
  have hstart : Reaches (climate twoAcquires).noted
      (fun i => (twoAcquires i).run { profile := "profile", driven := false })
      ((⟨[], []⟩, []), { session := { State.initial with observers := ["owner"] } }) [] _ :=
    .start
  have hwait : (climate twoAcquires).noted.Settles fun _ => none :=
    ⟨fun _ _ => id, fun _ _ hnow => by cases hnow⟩
  have hqueued := hstart.call hwait 0 rfl nofun
  have hlocked := hqueued.reply hwait 0 rfl (refusing ⟨0⟩) (⟨[], []⟩, _)
    ⟨⟨rfl, fun _ _ => rfl⟩, rfl⟩
  have hlaunching := hlocked.reply hwait 0 rfl (refusing ⟨0⟩) (⟨[], []⟩, _) ⟨rfl, rfl⟩
  have hlaunched := hlaunching.reply hwait 0 rfl (refusing ⟨0⟩) (⟨[⟨0⟩], []⟩, _)
    ⟨⟨nofun, rfl⟩, rfl⟩
  have hrefused := hlaunched.reply hwait 0 rfl (refusing ⟨0⟩) (⟨[⟨0⟩], []⟩, _) ⟨rfl, rfl⟩
  have hqueued' := hrefused.call hwait 1 rfl nofun
  have hlocked' := hqueued'.reply hwait 1 rfl (refusing ⟨1⟩) (⟨[⟨0⟩], []⟩, _)
    ⟨⟨rfl, fun _ _ => rfl⟩, rfl⟩
  have hlaunching' := hlocked'.reply hwait 1 rfl (refusing ⟨1⟩) (⟨[⟨0⟩], []⟩, _) ⟨rfl, rfl⟩
  have hlaunched' := hlaunching'.reply hwait 1 rfl (refusing ⟨1⟩) (⟨[⟨0⟩, ⟨1⟩], []⟩, _)
    ⟨⟨by decide, rfl⟩, rfl⟩
  -- the browser closes the context that was let go of open
  have hgone : Reaches (climate twoAcquires).noted _ _ _ ⟨((⟨[⟨0⟩, ⟨1⟩], [⟨0⟩]⟩, _), _), _⟩ :=
    hlaunched'.happen ⟨⟨rfl, rfl, nofun⟩, rfl⟩
  have htold := hgone.call hwait 2 rfl (by rintro c ⟨⟩; exact List.mem_singleton.mpr rfl)
  exact ⟨_, _, htold, _, List.mem_append_right _ (List.mem_singleton.mpr rfl), rfl, rfl, rfl⟩

theorem confined_iff_late : ∃ history e, Reaches (climate twoAcquires).noted
    (fun i => (twoAcquires i).run { profile := "profile", driven := false })
    ((⟨[], []⟩, []), { session := { State.initial with observers := ["owner"] } }) history e ∧
      ∀ m ∈ history,
        (Confined (heard twoAcquires m) m.before.2.session m.after.2.session ↔
          ¬ Late (heard twoAcquires m) m.before.2.session) := by
  obtain ⟨history, e, hreaches, -⟩ := reaches_late
  exact ⟨history, e, hreaches, confined_iff _ _ rfl hreaches⟩

/-- The successor is let go of. -/
theorem late_not_confined : ∃ history e, Reaches (climate twoAcquires).noted
    (fun i => (twoAcquires i).run { profile := "profile", driven := false })
    ((⟨[], []⟩, []), { session := { State.initial with observers := ["owner"] } }) history e ∧
      ∃ m ∈ history,
        ¬ Confined (heard twoAcquires m) m.before.2.session m.after.2.session := by
  obtain ⟨history, e, hreaches, m, hm, hheard, hbefore, hafter⟩ := reaches_late
  refine ⟨history, e, hreaches, m, hm, fun hconfined => ?_⟩
  have hsame := (hconfined.others _ hheard (by rw [hbefore]; decide)).2
  rw [hsame.context, hbefore] at hafter
  cases hafter

end Pageflow.Session
