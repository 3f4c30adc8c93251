import Pageflow.Proofs.Pause.Calls

/-! The board and the phases of all requests, whatever their order: every pause
has a signal of its own, a handle is on the board exactly as long as its signal
waits for somebody, and a signal is given by one request only. -/
namespace Pageflow.Pause
open Browser

theorem Board.signal_lt {b : Board} {n : Nat} (h : b.signal n ≠ .withdrawn) :
    n < b.signals.length := by
  by_contra hle
  unfold Board.signal at h
  rw [List.getElem?_eq_none (by omega)] at h
  exact h rfl

def Phase.pause? : Phase → Option Handle
  | .on h | .leaving h | .left h _ => some h
  | _ => none

def Phase.accept? : Phase → Option Handle
  | .accepted h => some h
  | _ => none

def Request.Owns (r : Request) (h : Handle) : Prop :=
  ∃ page stepIndex totalSteps, r = .pause h.taskId page stepIndex totalSteps

/-- What the phase of a request says about the board. -/
def Phase.Fits (b : Board) (r : Request) : Phase → Prop
  | .on h => r.Owns h ∧ h.signal < b.signals.length ∧
    (b.signal h.signal = .waiting ↔ h ∈ b.handles)
  | .leaving h => r.Owns h ∧ h.signal < b.signals.length ∧ b.signal h.signal = .withdrawn
  | .left h resumed => r.Owns h ∧ h.signal < b.signals.length ∧
    b.signal h.signal = if resumed then .given else .withdrawn
  | .checking h => r = .resume h.taskId
  | .accepted h => r = .resume h.taskId ∧ b.signal h.signal = .given
  | .fresh | .refused | .cancelled => True

structure Consistent (call : Nat → Request) (b : Board) (phase : Nat → Phase) : Prop where
  sound : b.Sound
  fits : ∀ i, (phase i).Fits b (call i)
  distinct : ∀ i j h h', (phase i).pause? = some h → (phase j).pause? = some h' →
    h.signal = h'.signal → i = j
  owned : ∀ h ∈ b.handles, ∃ i, phase i = .on h ∨ phase i = .leaving h
  accepted_pause : ∀ j h, (phase j).accept? = some h → ∃ i, (phase i).pause? = some h
  accepted_once : ∀ i j h h', (phase i).accept? = some h → (phase j).accept? = some h' →
    h.signal = h'.signal → i = j
  given : ∀ n, b.signal n = .given → ∃ j h, (phase j).accept? = some h ∧ h.signal = n

section

variable {r : Request} {φ φ' : Phase} {b b' : Board} {h : Handle} {n : Nat}

theorem Phase.Fits.pause (hfits : φ.Fits b r) (hpause : φ.pause? = some h) :
    r.Owns h ∧ h.signal < b.signals.length := by
  cases φ with
  | on | leaving | left =>
    cases hpause
    exact ⟨hfits.1, hfits.2.1⟩
  | _ => cases hpause

/-- What has been settled stays settled, so only a pause that is on has to be
looked at again. -/
theorem Phase.Fits.later (hfits : φ.Fits b r) (hlength : b.signals.length ≤ b'.signals.length)
    (hsettled : ∀ n < b.signals.length, b.signal n ≠ .waiting → b'.signal n = b.signal n)
    (hon : ∀ h, φ = .on h → (b'.signal h.signal = .waiting ↔ h ∈ b'.handles)) :
    φ.Fits b' r := by
  cases φ with
  | on h => exact ⟨hfits.1, Nat.lt_of_lt_of_le hfits.2.1 hlength, hon h rfl⟩
  | leaving h =>
    obtain ⟨howns, hlt, hsignal⟩ := hfits
    refine ⟨howns, Nat.lt_of_lt_of_le hlt hlength, ?_⟩
    rw [hsettled _ hlt (by simp [hsignal]), hsignal]
  | left h resumed =>
    obtain ⟨howns, hlt, hsignal⟩ := hfits
    refine ⟨howns, Nat.lt_of_lt_of_le hlt hlength, ?_⟩
    rw [hsettled _ hlt (by rw [hsignal]; cases resumed <;> simp), hsignal]
  | accepted h =>
    obtain ⟨hresume, hsignal⟩ := hfits
    refine ⟨hresume, ?_⟩
    rw [hsettled _ (Board.signal_lt (by simp [hsignal])) (by simp [hsignal]), hsignal]
  | checking h => exact hfits
  | fresh | refused | cancelled => trivial

end

/-- The signal of a handle is settled, if it was not, and the handle taken off. -/
structure Board.Finishes (b : Board) (h : Handle) (s : Signal) (b' : Board) : Prop where
  length_eq : b'.signals.length = b.signals.length
  signal_eq : ∀ n, b'.signal n = if n = h.signal ∧ b.signal n = .waiting then s else b.signal n
  mem_iff : ∀ h', h' ∈ b'.handles ↔ h' ∈ b.handles ∧ h'.signal ≠ h.signal
  sound : b.Sound → b'.Sound

namespace Board

variable {b b' : Board} {h h' : Handle} {s : Signal} {n : Nat}

theorem finishes_settle_remove (b : Board) (h : Handle) (s : Signal) :
    b.Finishes h s ((b.settle h.signal s).remove h) where
  length_eq := length_signals_settle s
  signal_eq n := by
    rw [signal_remove, signal_settle]
    by_cases hn : n = h.signal
    · subst hn
      rfl
    · simp [hn]
  mem_iff _ := mem_remove
  sound hb := (hb.settle _ _).remove _

theorem finishes_remove (hsettled : b.signal h.signal ≠ .waiting) (s : Signal) :
    b.Finishes h s (b.remove h) where
  length_eq := rfl
  signal_eq n := by
    rw [signal_remove, if_neg]
    rintro ⟨rfl, hwaiting⟩
    exact hsettled hwaiting
  mem_iff _ := mem_remove
  sound hb := hb.remove _

theorem Finishes.signal_of_settled (hfinishes : b.Finishes h s b') (hn : b.signal n ≠ .waiting) :
    b'.signal n = b.signal n := by
  rw [hfinishes.signal_eq, if_neg fun hwaiting => hn hwaiting.2]

theorem Finishes.signal_of_ne (hfinishes : b.Finishes h s b') (hn : n ≠ h.signal) :
    b'.signal n = b.signal n := by
  rw [hfinishes.signal_eq, if_neg fun hwaiting => hn hwaiting.1]

theorem Finishes.signal_self (hfinishes : b.Finishes h s b') (hs : s ≠ .waiting) :
    b'.signal h.signal ≠ .waiting := by
  rw [hfinishes.signal_eq]
  by_cases hwaiting : b.signal h.signal = .waiting
  · simpa [hwaiting] using hs
  · simp [hwaiting]

theorem Finishes.fits (hfinishes : b.Finishes h s b') (hs : s ≠ .waiting) {r : Request} {φ : Phase}
    (hfits : φ.Fits b r) : φ.Fits b' r := by
  refine hfits.later (Nat.le_of_eq hfinishes.length_eq.symm)
    (fun n _ => hfinishes.signal_of_settled) ?_
  rintro h' rfl
  rw [hfinishes.mem_iff]
  by_cases heq : h'.signal = h.signal
  · simpa [heq] using hfinishes.signal_self hs
  · rw [hfinishes.signal_of_ne heq, hfits.2.2]
    simp [heq]

end Board

section

variable {call : Nat → Request} {b b' : Board} {phase : Nat → Phase} {who : Nat} {φ : Phase}
  {h : Handle} {s : Signal}

theorem pause?_update (hpause : φ.pause? = (phase who).pause?) (i : Nat) :
    (Function.update phase who φ i).pause? = (phase i).pause? := by
  by_cases hi : i = who
  · subst hi
    rw [Function.update_self, hpause]
  · rw [Function.update_of_ne hi]

theorem accept?_update (haccept : φ.accept? = (phase who).accept?) (i : Nat) :
    (Function.update phase who φ i).accept? = (phase i).accept? := by
  by_cases hi : i = who
  · subst hi
    rw [Function.update_self, haccept]
  · rw [Function.update_of_ne hi]

theorem fits_update (hself : φ.Fits b' (call who))
    (hothers : ∀ i, i ≠ who → (phase i).Fits b' (call i)) (i : Nat) :
    (Function.update phase who φ i).Fits b' (call i) := by
  by_cases hi : i = who
  · subst hi
    rw [Function.update_self]
    exact hself
  · rw [Function.update_of_ne hi]
    exact hothers i hi

/-- The signals of different requests stay apart if no other has the signal of a new one. -/
theorem signals_apart_update {f : Phase → Option Handle}
    (hbefore : ∀ i j h h', f (phase i) = some h → f (phase j) = some h' →
      h.signal = h'.signal → i = j)
    (hnew : ∀ i h h', i ≠ who → f φ = some h → f (phase i) = some h' → h'.signal ≠ h.signal)
    (i j : Nat) (h h' : Handle) (hi : f (Function.update phase who φ i) = some h)
    (hj : f (Function.update phase who φ j) = some h') (heq : h.signal = h'.signal) : i = j := by
  refine apart_update (P := fun ψ n => ∃ h, f ψ = some h ∧ h.signal = n) ?_ ?_ i j h.signal
    ⟨h, hi, rfl⟩ ⟨h', hj, heq.symm⟩
  · rintro i j n ⟨h₁, hi, rfl⟩ ⟨h₂, hj, hn⟩
    exact hbefore i j h₁ h₂ hi hj hn.symm
  · rintro i n hne ⟨h₁, hφ, rfl⟩ ⟨h₂, hi, hn⟩
    exact hnew i h₁ h₂ hne hφ hi hn

/-- After a turn that leaves the pauses and the requests accepted as they were, only
the board has to be looked at. -/
theorem Consistent.of_same (hc : Consistent call b phase) {phase' : Nat → Phase}
    (hpauses : ∀ i, (phase' i).pause? = (phase i).pause?)
    (haccepts : ∀ i, (phase' i).accept? = (phase i).accept?) (hsound : b'.Sound)
    (hfits : ∀ i, (phase' i).Fits b' (call i))
    (howned : ∀ h ∈ b'.handles, ∃ i, phase' i = .on h ∨ phase' i = .leaving h)
    (hgiven : ∀ n, b'.signal n = .given → b.signal n = .given) :
    Consistent call b' phase' where
  sound := hsound
  fits := hfits
  distinct i j := by
    rw [hpauses i, hpauses j]
    exact hc.distinct i j
  owned := howned
  accepted_pause j h hj := by
    rw [haccepts j] at hj
    obtain ⟨i, hi⟩ := hc.accepted_pause j h hj
    exact ⟨i, (hpauses i).trans hi⟩
  accepted_once i j := by
    rw [haccepts i, haccepts j]
    exact hc.accepted_once i j
  given n hn := by
    obtain ⟨j, h, hj, hsignal⟩ := hc.given n (hgiven n hn)
    exact ⟨j, h, (haccepts j).trans hj, hsignal⟩

/-- A handle that is not that of the pause that moved has the owner it had. -/
theorem Consistent.owned_update (hc : Consistent call b phase) (hmem : h ∈ b.handles)
    (hwho : ¬ (phase who = .on h ∨ phase who = .leaving h)) :
    ∃ i, Function.update phase who φ i = .on h ∨ Function.update phase who φ i = .leaving h := by
  obtain ⟨i, hi⟩ := hc.owned h hmem
  exact ⟨i, update_of_not (P := fun ψ : Phase => ψ = .on h ∨ ψ = .leaving h) hi hwho⟩

theorem Phase.pause?_of_owner (howner : φ = .on h ∨ φ = .leaving h) : φ.pause? = some h := by
  rcases howner with rfl | rfl
  · rfl
  · rfl

theorem Phase.not_owner (hpause : φ.pause? = none) : ¬ (φ = .on h ∨ φ = .leaving h) := by
  intro howner
  rw [Phase.pause?_of_owner howner] at hpause
  cases hpause

theorem Consistent.idle (hc : Consistent call b phase) (hfits : φ.Fits b (call who))
    (hpause : φ.pause? = none) (hpause' : (phase who).pause? = none) (haccept : φ.accept? = none)
    (haccept' : (phase who).accept? = none) : Consistent call b (Function.update phase who φ) :=
  hc.of_same (pause?_update (hpause.trans hpause'.symm))
    (accept?_update (haccept.trans haccept'.symm)) hc.sound
    (fits_update hfits fun i _ => hc.fits i)
    (fun _ hmem => hc.owned_update hmem (Phase.not_owner hpause')) (fun _ => id)

/-- A pause that begins has the next signal, so it shares it with nobody. -/
theorem Consistent.begin (hc : Consistent call b phase) {taskId : String} {page : Option PageRef}
    {stepIndex totalSteps : Int} (hcall : call who = .pause taskId page stepIndex totalSteps)
    (hfresh : phase who = .fresh)
    (hbegin : b.begin? taskId page stepIndex totalSteps = some (h, b')) :
    Consistent call b' (Function.update phase who (.on h)) := by
  obtain ⟨hnone, htask, hsignal, hhandles, hsignals⟩ := Board.begin?_eq_some hbegin
  have hsignal' : ∀ n, b'.signal n = if n = b.signals.length then .waiting else b.signal n :=
    fun n => Board.signal_append hsignals
  have hlength : b'.signals.length = b.signals.length + 1 := by
    rw [hsignals, List.length_append, List.length_singleton]
  have hold : ∀ i h', (phase i).pause? = some h' → h'.signal ≠ h.signal := by
    intro i h' hi heq
    have hlt := ((hc.fits i).pause hi).2
    omega
  have hpause : (phase who).pause? = none := by rw [hfresh]; rfl
  have haccepts : ∀ i, (Function.update phase who (.on h) i).accept? = (phase i).accept? :=
    accept?_update (by rw [hfresh]; rfl)
  exact {
    sound := hc.sound.begin? hbegin
    fits := by
      refine fits_update ⟨⟨page, stepIndex, totalSteps, htask ▸ hcall⟩, by omega, ?_⟩ fun i _ => ?_
      · rw [hsignal', if_pos hsignal, hhandles]
        simp
      · refine (hc.fits i).later (by omega) (fun n hn _ => ?_) fun h' hon => ?_
        · rw [hsignal', if_neg (Nat.ne_of_lt hn)]
        · have hfits := hc.fits i
          have hne := hold i h' (Phase.pause?_of_owner (.inl hon))
          rw [hon] at hfits
          have hnew : h' ≠ h := fun heq => hne (heq ▸ rfl)
          rw [hsignal', if_neg (Nat.ne_of_lt hfits.2.1), hfits.2.2, hhandles]
          simp [hnew]
    distinct := signals_apart_update hc.distinct fun i h₁ h₂ _ hnow hi => by
      cases hnow
      exact hold i h₂ hi
    owned := fun h' hmem => by
      rw [hhandles, List.mem_append, List.mem_singleton] at hmem
      rcases hmem with hmem | rfl
      · exact hc.owned_update hmem (Phase.not_owner hpause)
      · exact ⟨who, .inl (Function.update_self ..)⟩
    accepted_pause := fun j h' hj => by
      rw [haccepts j] at hj
      obtain ⟨i, hi⟩ := hc.accepted_pause j h' hj
      exact ⟨i, update_of_not (P := fun ψ : Phase => ψ.pause? = some h') hi (by simp [hpause])⟩
    accepted_once := fun i j => by
      rw [haccepts i, haccepts j]
      exact hc.accepted_once i j
    given := fun n hn => by
      rw [hsignal'] at hn
      split at hn
      · cases hn
      · obtain ⟨j, h', hj, hn'⟩ := hc.given n hn
        exact ⟨j, h', (haccepts j).trans hj, hn'⟩ }

/-- A pause that withdraws its signal stays the owner of its handle. -/
theorem Consistent.withdraw (hc : Consistent call b phase) (hon : phase who = .on h)
    (hwaiting : b.signal h.signal = .waiting) :
    Consistent call (b.settle h.signal .withdrawn) (Function.update phase who (.leaving h)) := by
  have hfits := hc.fits who
  rw [hon] at hfits
  refine hc.of_same (pause?_update (by rw [hon]; rfl)) (accept?_update (by rw [hon]; rfl))
    (hc.sound.settle _ _) ?_ ?_ fun n hn => ?_
  · refine fits_update ⟨hfits.1, ?_, Board.signal_settle_self hwaiting _⟩ fun i hi => ?_
    · rw [Board.length_signals_settle]
      exact hfits.2.1
    · refine (hc.fits i).later (Nat.le_of_eq (Board.length_signals_settle _).symm)
        (fun n _ hn => ?_) fun h' hon' => ?_
      · rw [Board.signal_settle, if_neg]
        rintro ⟨rfl, -⟩
        exact hn hwaiting
      · have hfits' := hc.fits i
        have hne : h'.signal ≠ h.signal := fun heq =>
          hi (hc.distinct i who h' h (by rw [hon']; rfl) (by rw [hon]; rfl) heq)
        rw [hon'] at hfits'
        rw [Board.signal_settle_of_ne hne, hfits'.2.2, Board.handles_settle]
  · intro h' hmem
    by_cases hself : h' = h
    · subst hself
      exact ⟨who, .inr (Function.update_self ..)⟩
    · refine hc.owned_update hmem ?_
      rw [hon]
      rintro (hphase | hphase)
      · cases hphase
        exact hself rfl
      · cases hphase
  · rw [Board.signal_settle] at hn
    split at hn
    · cases hn
    · exact hn

/-- The handles that are left when one pause is finished have the owners they
had. -/
theorem Consistent.owned_finish (hc : Consistent call b phase) (hfinishes : b.Finishes h s b')
    (hwho : ∀ h', phase who = .on h' ∨ phase who = .leaving h' → h'.signal = h.signal) :
    ∀ h' ∈ b'.handles, ∃ i, Function.update phase who φ i = .on h' ∨
      Function.update phase who φ i = .leaving h' := by
  intro h' hmem
  obtain ⟨hmem, hne⟩ := (hfinishes.mem_iff h').mp hmem
  exact hc.owned_update hmem fun howner => hne (hwho h' howner)

/-- A pause is finished without a request to resume being accepted now. -/
theorem Consistent.finish (hc : Consistent call b phase) (hfinishes : b.Finishes h s b')
    (hs : s ≠ .waiting) (hgiven : s = .given → b.signal h.signal ≠ .waiting)
    (hfits : φ.Fits b' (call who)) (hpause : φ.pause? = (phase who).pause?)
    (haccept : φ.accept? = (phase who).accept?)
    (hwho : ∀ h', phase who = .on h' ∨ phase who = .leaving h' → h'.signal = h.signal) :
    Consistent call b' (Function.update phase who φ) := by
  refine hc.of_same (pause?_update hpause) (accept?_update haccept) (hfinishes.sound hc.sound)
    (fits_update hfits fun i _ => hfinishes.fits hs (hc.fits i))
    (hc.owned_finish hfinishes hwho) fun n hn => ?_
  rw [hfinishes.signal_eq] at hn
  split at hn
  · rename_i hsettled
    obtain ⟨rfl, hwaiting⟩ := hsettled
    exact absurd hwaiting (hgiven hn)
  · exact hn

/-- A request that was accepted has given its signal. -/
theorem Consistent.signal_accepted (hc : Consistent call b phase) {j : Nat}
    (hj : (phase j).accept? = some h) : b.signal h.signal = .given := by
  have hfits := hc.fits j
  cases hphase : phase j with
  | accepted h' =>
    rw [hphase] at hj hfits
    cases hj
    exact hfits.2
  | _ =>
    rw [hphase] at hj
    cases hj

/-- A request to resume is accepted: no request was accepted for this pause
before, as its signal still waited. -/
theorem Consistent.accept (hc : Consistent call b phase) (hmem : h ∈ b.handles)
    (hwaiting : b.signal h.signal = .waiting) (hcall : call who = .resume h.taskId)
    (hpause : (phase who).pause? = none) (haccept : (phase who).accept? = none) :
    Consistent call ((b.settle h.signal .given).remove h)
      (Function.update phase who (.accepted h)) := by
  have hfinishes := Board.finishes_settle_remove b h .given
  have hgiven : ((b.settle h.signal .given).remove h).signal h.signal = .given := by
    rw [hfinishes.signal_eq, if_pos ⟨rfl, hwaiting⟩]
  have hpauses : ∀ i, (Function.update phase who (.accepted h) i).pause? = (phase i).pause? :=
    pause?_update hpause.symm
  exact {
    sound := hfinishes.sound hc.sound
    fits := fits_update ⟨hcall, hgiven⟩ fun i _ => hfinishes.fits nofun (hc.fits i)
    distinct := fun i j => by
      rw [hpauses i, hpauses j]
      exact hc.distinct i j
    owned := hc.owned_finish hfinishes fun h' howner => absurd howner (Phase.not_owner hpause)
    accepted_pause := fun j h' hj => by
      by_cases hwho : j = who
      · rw [hwho, Function.update_self] at hj
        cases hj
        obtain ⟨i, hi⟩ := hc.owned h hmem
        exact ⟨i, (hpauses i).trans (Phase.pause?_of_owner hi)⟩
      · rw [Function.update_of_ne hwho] at hj
        obtain ⟨i, hi⟩ := hc.accepted_pause j h' hj
        exact ⟨i, (hpauses i).trans hi⟩
    accepted_once := signals_apart_update hc.accepted_once fun i h₁ h₂ _ hnow hi heq => by
      cases hnow
      have hgiven' := hc.signal_accepted hi
      rw [heq, hwaiting] at hgiven'
      cases hgiven'
    given := fun n hn => by
      by_cases heq : n = h.signal
      · exact ⟨who, h, by rw [Function.update_self]; rfl, heq.symm⟩
      · rw [hfinishes.signal_of_ne heq] at hn
        obtain ⟨j, h', hj, hn'⟩ := hc.given n hn
        exact ⟨j, h', update_of_not (P := fun ψ : Phase => ψ.accept? = some h') hj
          (by simp [haccept]), hn'⟩ }

theorem Consistent.turn (hc : Consistent call b phase)
    (hturns : Turns (call who) (phase who) b φ b') :
    Consistent call b' (Function.update phase who φ) := by
  have hfits := hc.fits who
  generalize hr : call who = r at hturns hfits
  generalize hphase : phase who = ψ at hturns hfits
  cases hturns with
  | begin hbegin => exact hc.begin hr hphase hbegin
  | wait | checkOn | tell =>
    rw [← hphase, Function.update_eq_self]
    exact hc
  | wake hgiven =>
    rename_i h
    have hsettled : b.signal h.signal ≠ .waiting := by simp [hgiven]
    refine hc.finish (Board.finishes_remove hsettled .given) nofun (fun _ => hsettled) ?_
      (by rw [hphase]; rfl) (by rw [hphase]; rfl) (by rw [hphase]; simp +contextual)
    rw [hr]
    exact ⟨hfits.1, hfits.2.1, hgiven⟩
  | giveUp hwithdrawn =>
    rename_i h
    have hsettled : b.signal h.signal ≠ .waiting := by simp [hwithdrawn]
    refine hc.finish (Board.finishes_remove hsettled .withdrawn) nofun nofun ?_
      (by rw [hphase]; rfl) (by rw [hphase]; rfl) (by rw [hphase]; simp +contextual)
    rw [hr]
    exact ⟨hfits.1, hfits.2.1, hwithdrawn⟩
  | withdraw hwaiting => exact hc.withdraw hphase hwaiting
  | leave h =>
    have hsettled : b.signal h.signal ≠ .waiting := by simp [hfits.2.2]
    refine hc.finish (Board.finishes_remove hsettled .withdrawn) nofun nofun ?_
      (by rw [hphase]; rfl) (by rw [hphase]; rfl) (by rw [hphase]; simp +contextual)
    rw [hr]
    exact ⟨hfits.1, hfits.2.1, hfits.2.2⟩
  | check hcheck =>
    obtain ⟨hfound, -⟩ := Board.resumable?_eq_some_iff.mp hcheck
    refine hc.idle ?_ rfl (by rw [hphase]; rfl) rfl (by rw [hphase]; rfl)
    rw [hr, ← (Board.mem_of_handle? hfound).2]
    rfl
  | acceptUnasked hcheck haccept =>
    obtain ⟨hfound, -⟩ := Board.resumable?_eq_some_iff.mp hcheck
    obtain ⟨hmem, hwaiting, rfl⟩ := Board.accept?_eq_some haccept
    refine hc.accept hmem hwaiting ?_ (by rw [hphase]; rfl) (by rw [hphase]; rfl)
    rw [hr, (Board.mem_of_handle? hfound).2]
  | accept haccept =>
    obtain ⟨hmem, hwaiting, rfl⟩ := Board.accept?_eq_some haccept
    exact hc.accept hmem hwaiting (hr.trans hfits) (by rw [hphase]; rfl) (by rw [hphase]; rfl)
  | turnAway | refuse =>
    exact hc.idle trivial rfl (by rw [hphase]; rfl) rfl (by rw [hphase]; rfl)
  | cancel hcancel =>
    rcases Board.cancel_eq hcancel with rfl | ⟨h, -, -, rfl⟩
    · exact hc.idle trivial rfl (by rw [hphase]; rfl) rfl (by rw [hphase]; rfl)
    · exact hc.finish (Board.finishes_settle_remove _ _ _) nofun nofun trivial
        (by rw [hphase]; rfl) (by rw [hphase]; rfl) (by rw [hphase]; simp)

theorem consistent_start (call : Nat → Request) : Consistent call .empty fun _ => .fresh where
  sound := Board.sound_empty
  fits _ := trivial
  distinct _ _ _ _ := nofun
  owned := nofun
  accepted_pause _ _ := nofun
  accepted_once _ _ _ _ := nofun
  given n hn := by
    have hlt := Board.signal_lt (b := .empty) (n := n) (by simp [hn])
    cases hlt

end
end Pageflow.Pause
