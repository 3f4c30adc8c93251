import Pageflow.Proofs.Activity.Confined

/-! Two programs in the same surroundings, of which the first may ask more than the second. Where
nobody notices what it asks besides, both end alike and ask the same otherwise. -/
namespace Pageflow

variable {σ A : Type} {R : A → Type} {W α β : Type}

/-- How two runs are compared: where they agree, and which questions are left out. -/
structure Comparison (σ A W : Type) where
  agree : W × σ → W × σ → Prop
  aside : A → Bool

/-- Where two runs agree they share the same state, and after the same write, or the same question
out of `asks`, they still agree. -/
structure Comparison.Lawful (k : Comparison σ A W) (env : Responses σ A R W) (asks : A → Prop)
    (writes : σ → σ → Prop) : Prop where
  shared : ∀ x y, k.agree x y → x.2 = y.2
  written : ∀ x y s, k.agree x y → writes x.2 s → k.agree (x.1, s) (y.1, s)
  answered : ∀ q x y, asks q → k.agree x y →
    (env q x).1 = (env q y).1 ∧ k.agree (env q x).2 (env q y).2

namespace Program

/-- From `x` the program `p` ends as `q` does from `y`, and has asked the same but for what is left
out. -/
structure Mirrors (env : Responses σ A R W) (k : Comparison σ A W) (p : Program σ A R α)
    (x : W × σ) (q : Program σ A R α) (y : W × σ) : Prop where
  result : (p.run env x).1 = (q.run env y).1
  agree : k.agree (p.run env x).2 (q.run env y).2
  asked : (p.asked env x).filter (!k.aside ·) = (q.asked env y).filter (!k.aside ·)

/-- Wherever the runs agree, `p` mirrors `q`. -/
def Mirrored (env : Responses σ A R W) (k : Comparison σ A W) (p q : Program σ A R α) : Prop :=
  ∀ x y, k.agree x y → p.Mirrors env k x q y

/-- Wherever the runs agree, they still do after `p`, which asks nothing but what is left out and
has one of the results `fine`. -/
def Unnoticed (env : Responses σ A R W) (k : Comparison σ A W) (p : Program σ A R α)
    (fine : Result α → Prop) : Prop :=
  ∀ x y, k.agree x y → fine (p.run env x).1 ∧ k.agree (p.run env x).2 y ∧
    (p.asked env x).filter (!k.aside ·) = []

variable {env : Responses σ A R W} {k : Comparison σ A W} {asks : A → Prop}
  {writes : σ → σ → Prop} {x y : W × σ} {p q : Program σ A R α} {f g : α → Program σ A R β}

/-! ## The same program on both sides -/

theorem Within.mirrors (hk : k.Lawful env asks writes) (hp : p.Within asks writes x.2)
    (hagree : k.agree x y) : p.Mirrors env k x p y := by
  induction p generalizing x y with
  | done value => exact ⟨rfl, hagree, rfl⟩
  | fail fault => exact ⟨rfl, hagree, rfl⟩
  | read next ih =>
    obtain ⟨w, s⟩ := x
    obtain ⟨w', s'⟩ := y
    obtain rfl : s = s' := hk.shared _ _ hagree
    have hnext := ih s hp hagree
    exact ⟨hnext.result, hnext.agree, hnext.asked⟩
  | write s next ih =>
    have hnext := ih hp.2 (hk.written x y s hagree hp.1)
    exact ⟨hnext.result, hnext.agree, hnext.asked⟩
  | ask question next ih =>
    obtain ⟨hsame, hafter⟩ := hk.answered question x y hp.1 hagree
    have hnext := ih (env question x).1 (hp.2 _ _) hafter
    refine ⟨?_, ?_, ?_⟩
    · rw [run, run, ← hsame]
      exact hnext.result
    · rw [run, run, ← hsame]
      exact hnext.agree
    · rw [Program.asked, Program.asked, ← hsame]
      by_cases haside : k.aside question = true
      · simpa [haside] using hnext.asked
      · simpa [haside] using hnext.asked

theorem Confined.mirrored (hp : p.Confined asks writes) (hk : k.Lawful env asks writes) :
    Mirrored env k p p :=
  fun x _ hagree => (hp x.2).mirrors hk hagree

/-! ## Parts -/

theorem mirrored_ofResult (result : Result α) :
    Mirrored env k (ofResult result) (ofResult result) :=
  fun x y hagree => by cases result <;> exact ⟨rfl, hagree, rfl⟩

theorem Mirrors.bind (hp : p.Mirrors env k x q y)
    (hf : ∀ value x' y', p.run env x = (.ok value, x') → q.run env y = (.ok value, y') →
      k.agree x' y' → (f value).Mirrors env k x' (g value) y') :
    (p.bind f).Mirrors env k x (q.bind g) y := by
  obtain ⟨hresult, hagree, hasked⟩ := hp
  rcases hp : p.run env x with ⟨result, x'⟩
  rcases hq : q.run env y with ⟨result', y'⟩
  rw [hp, hq] at hresult hagree
  obtain rfl : result = result' := hresult
  cases result with
  | error fault =>
    refine ⟨?_, ?_, ?_⟩
    · simp only [run_bind, hp, hq]
    · simpa only [run_bind, hp, hq] using hagree
    · simpa only [asked_bind, hp, hq, List.append_nil] using hasked
  | ok value =>
    have hnext := hf value x' y' hp hq hagree
    refine ⟨?_, ?_, ?_⟩
    · simpa only [run_bind, hp, hq] using hnext.result
    · simpa only [run_bind, hp, hq] using hnext.agree
    · simp only [asked_bind, hp, hq, List.filter_append, hasked, hnext.asked]

theorem Mirrors.attempt (hp : p.Mirrors env k x q y) : p.attempt.Mirrors env k x q.attempt y where
  result := by simp only [run_attempt, hp.result]
  agree := by simpa only [run_attempt] using hp.agree
  asked := by simpa only [asked_attempt] using hp.asked

theorem mirrored_bind (hp : Mirrored env k p q) (hf : ∀ value, Mirrored env k (f value) (g value)) :
    Mirrored env k (p.bind f) (q.bind g) :=
  fun x y hagree => (hp x y hagree).bind fun value x' y' _ _ => hf value x' y'

theorem mirrored_attempt (hp : Mirrored env k p q) : Mirrored env k p.attempt q.attempt :=
  fun x y hagree => (hp x y hagree).attempt

theorem mirrored_rescueIf (hp : Mirrored env k p q) {accepts : Fault → Bool}
    {recover recover' : Fault → Program σ A R α}
    (hrecover : ∀ fault, Mirrored env k (recover fault) (recover' fault)) :
    Mirrored env k (p.rescueIf accepts recover) (q.rescueIf accepts recover') := by
  refine mirrored_bind (mirrored_attempt hp) fun result => ?_
  cases result with
  | ok value => exact mirrored_ofResult (.ok value)
  | error fault =>
    dsimp only
    split
    · exact hrecover fault
    · exact mirrored_ofResult (.error fault)

theorem mirrored_ensure (hp : Mirrored env k p q) {last last' : Program σ A R Unit}
    (hlast : Mirrored env k last last') : Mirrored env k (p.ensure last) (q.ensure last') :=
  mirrored_bind (mirrored_attempt hp) fun result =>
    mirrored_bind hlast fun _ => mirrored_ofResult result

theorem mirrored_ite {c : Prop} [Decidable c] {p' q' : Program σ A R α} (hp : Mirrored env k p q)
    (hq : Mirrored env k p' q') : Mirrored env k (if c then p else p') (if c then q else q') := by
  split
  · exact hp
  · exact hq

/-! ## What nobody notices -/

variable {fine : Result α → Prop} {fine' : Result β → Prop}

theorem unnoticed_ofResult (result : Result α) (h : fine result) :
    Unnoticed env k (ofResult result) fine := by
  intro x y hagree
  rw [run_ofResult]
  exact ⟨h, hagree, by cases result <;> rfl⟩

theorem unnoticed_ask {question : A} {next : R question → Program σ A R α}
    (haside : k.aside question = true)
    (hnext : ∀ x y, k.agree x y → k.agree (env question x).2 y ∧
      Unnoticed env k (next (env question x).1) fine) :
    Unnoticed env k (ask question next) fine := by
  intro x y hagree
  obtain ⟨hafter, hnext⟩ := hnext x y hagree
  obtain ⟨hfine, hend, hasked⟩ := hnext _ y hafter
  refine ⟨hfine, hend, ?_⟩
  rw [asked, List.filter_cons_of_neg (by simp [haside])]
  exact hasked

theorem unnoticed_bind (hp : Unnoticed env k p fine)
    (hf : ∀ value, fine (.ok value) → Unnoticed env k (f value) fine')
    (hfault : ∀ fault, fine (.error fault) → fine' (.error fault)) :
    Unnoticed env k (p.bind f) fine' := by
  intro x y hagree
  obtain ⟨hfine, hafter, hasked⟩ := hp x y hagree
  rw [run_bind, asked_bind, List.filter_append, hasked]
  rcases hrun : p.run env x with ⟨fault | value, x'⟩
  · rw [hrun] at hfine hafter
    exact ⟨hfault fault hfine, hafter, rfl⟩
  · rw [hrun] at hfine hafter
    exact hf value hfine x' y hafter

theorem unnoticed_rescue {recover : Fault → Program σ A R α}
    (hp : Unnoticed env k p fun
      | .ok value => fine (.ok value)
      | .error fault => fault.isCancelled = false)
    (hrecover : ∀ fault, Unnoticed env k (recover fault) fine) :
    Unnoticed env k (p.rescue recover) fine := by
  intro x y hagree
  obtain ⟨hfine, hafter, hasked⟩ := hp x y hagree
  unfold rescue rescueIf
  rw [run_bind, asked_bind, run_attempt, asked_attempt, List.filter_append, hasked]
  rcases hrun : p.run env x with ⟨fault | value, x'⟩
  · rw [hrun] at hfine hafter
    dsimp only
    rw [if_pos (by rw [hfine]; rfl)]
    exact hrecover fault x' y hafter
  · rw [hrun] at hfine hafter
    exact ⟨hfine, hafter, rfl⟩

/-- A part that nobody notices, and that does not fail, may come before on one side only. -/
theorem Unnoticed.bind_mirrored (hp : Unnoticed env k p fine)
    (hfine : ∀ fault, ¬ fine (.error fault)) {q : Program σ A R β}
    (hf : ∀ value, fine (.ok value) → Mirrored env k (f value) q) :
    Mirrored env k (p.bind f) q := by
  intro x y hagree
  obtain ⟨hresult, hafter, hasked⟩ := hp x y hagree
  rcases hrun : p.run env x with ⟨fault | value, x'⟩
  · rw [hrun] at hresult
    exact absurd hresult (hfine fault)
  · rw [hrun] at hresult hafter
    obtain ⟨hsame, hend, hrest⟩ := hf value hresult x' y hafter
    refine ⟨?_, ?_, ?_⟩
    · simpa only [run_bind, hrun] using hsame
    · simpa only [run_bind, hrun] using hend
    · simpa only [asked_bind, hrun, List.filter_append, hasked, List.nil_append] using hrest

end Program
end Pageflow
