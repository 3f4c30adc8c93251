import Pageflow.Proofs.Activity.Contract

/-! Programs that never wait: all that they ask is answered at once, so they begin
and end within one turn of whoever calls them. -/
namespace Pageflow

variable {σ A : Type} {R : A → Type} {W α β Φ : Type}

namespace Program

/-- From `now` the program ends in the same turn, and in one of the ways of `post`. -/
def AtOnce (env : Climate σ A R W) : Program σ A R α → W × σ → (Result α → W × σ → Prop) → Prop
  | done value, now, post => post (.ok value) now
  | fail fault, now, post => post (.error fault) now
  | read next, now, post => (next now.2).AtOnce env now post
  | write s next, now, post => next.AtOnce env (now.1, s) post
  | ask q next, now, post =>
    env.atOnce q ∧ ∀ r w, env.answers q now r w → (next r).AtOnce env (w, now.2) post

variable {env : Climate σ A R W} {now : W × σ} {post : Result α → W × σ → Prop}

theorem AtOnce.mono {p : Program σ A R α} {post' : Result α → W × σ → Prop}
    (h : p.AtOnce env now post) (hpost : ∀ result y, post result y → post' result y) :
    p.AtOnce env now post' := by
  induction p generalizing now with
  | done value => exact hpost _ _ h
  | fail fault => exact hpost _ _ h
  | read next ih => exact ih now.2 h
  | write s next ih => exact ih h
  | ask q next ih => exact ⟨h.1, fun r w hr => ih r (h.2 r w hr)⟩

theorem atOnce_bind {p : Program σ A R β} {f : β → Program σ A R α} :
    (p.bind f).AtOnce env now post ↔ p.AtOnce env now fun result y => match result with
      | .ok value => (f value).AtOnce env y post
      | .error fault => post (.error fault) y := by
  induction p generalizing now with
  | done value => exact Iff.rfl
  | fail fault => exact Iff.rfl
  | read next ih => exact ih now.2
  | write s next ih => exact ih
  | ask q next ih =>
    exact and_congr_right fun _ => forall₃_congr fun r w _ => ih r

theorem atOnce_ofResult {result : Result α} :
    (ofResult result : Program σ A R α).AtOnce env now post ↔ post result now := by
  cases result with
  | ok value => exact Iff.rfl
  | error fault => exact Iff.rfl

theorem atOnce_attempt {p : Program σ A R β} {post : Result (Result β) → W × σ → Prop} :
    p.attempt.AtOnce env now post ↔ p.AtOnce env now fun result => post (.ok result) := by
  induction p generalizing now with
  | done value => exact Iff.rfl
  | fail fault => exact Iff.rfl
  | read next ih => exact ih now.2
  | write s next ih => exact ih
  | ask q next ih =>
    exact and_congr_right fun _ => forall₃_congr fun r w _ => ih r

theorem atOnce_rescue {p : Program σ A R α} {recover : Fault → Program σ A R α}
    (hp : p.AtOnce env now fun result y => match result with
      | .ok value => post (.ok value) y
      | .error fault => fault.isCancelled = false ∧ (recover fault).AtOnce env y post) :
    (p.rescue recover).AtOnce env now post := by
  unfold rescue rescueIf
  rw [atOnce_bind, atOnce_attempt]
  refine hp.mono ?_
  rintro (fault | value) y hend
  · obtain ⟨hspared, hrecover⟩ := hend
    simp only [hspared, Bool.not_false, ↓reduceIte]
    exact hrecover
  · exact hend

/-- What the world does with every answer it does in the turn. -/
theorem AtOnce.world {p : Program σ A R α} {grows : W → W → Prop} (hrefl : ∀ w, grows w w)
    (htrans : ∀ u v w, grows u v → grows v w → grows u w)
    (hanswers : ∀ q x r w, env.answers q x r w → grows x.1 w) (h : p.AtOnce env now post) :
    p.AtOnce env now fun result y => post result y ∧ grows now.1 y.1 := by
  induction p generalizing now with
  | done value => exact ⟨h, hrefl _⟩
  | fail fault => exact ⟨h, hrefl _⟩
  | read next ih => exact ih now.2 h
  | write s next ih => exact ih h
  | ask q next ih =>
    refine ⟨h.1, fun r w hr => (ih r (h.2 r w hr)).mono fun result y hend => ?_⟩
    exact ⟨hend.1, htrans _ _ _ (hanswers q now r w hr) hend.2⟩

/-- Where a call goes on after a program that never waits, it is still in the
same turn. -/
theorem AtOnce.keeps {c : Contract σ A W α Φ} {p : Program σ A R β} {post : Ending σ W β Φ}
    {φ : Φ} {before : W × σ} (h : p.AtOnce env now fun result y => post result φ before y) :
    p.Keeps env c post φ before now := by
  induction p generalizing now with
  | done value => exact h
  | fail fault => exact h
  | read next ih => exact ih now.2 h
  | write s next ih => exact ih h
  | ask q next ih =>
    obtain ⟨honce, hnext⟩ := h
    exact ⟨fun _ r w hr => ih r (hnext r w hr), fun hlater => absurd honce hlater⟩

end Program
end Pageflow
