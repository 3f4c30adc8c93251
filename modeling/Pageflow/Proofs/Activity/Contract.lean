import Pageflow.Proofs.Activity.Ensemble

/-! Contracts for the calls of an ensemble. A contract says through which phases
a call goes and what a turn that leads from one phase to another does to what is
shared; once every program keeps its contract, an invariant of the ensemble is
proved about phases and turns alone. -/
namespace Pageflow

variable {σ A : Type} {R : A → Type} {W α β γ δ Φ Ψ : Type}

/-- What a call promises from one turn to the next, and on what it relies when
its turn comes. -/
structure Contract (σ A W α Φ : Type) where
  start : Φ
  rely : Φ → W × σ → Prop
  /-- In which phases a question may stand open. -/
  rests : Φ → A → Prop
  moves : Φ → W × σ → Φ → W × σ → Prop
  ends : Φ → Result α → Prop

/-- What holds of the result, the phase at the begin of the turn, and what is
shared then and now. -/
abbrev Ending (σ W α Φ : Type) : Type := Result α → Φ → W × σ → W × σ → Prop

def Contract.closes (c : Contract σ A W α Φ) : Ending σ W α Φ :=
  fun result φ before now => ∃ φ', c.moves φ before φ' now ∧ c.ends φ' result

namespace Program

/-- In a turn that began in phase `φ` and has come from `before` to `now`, the
program keeps the contract, and where it ends there is `post`. -/
def Keeps (env : Climate σ A R W) (c : Contract σ A W α Φ) :
    Program σ A R β → Ending σ W β Φ → Φ → W × σ → W × σ → Prop
  | done value, post, φ, before, now => post (.ok value) φ before now
  | fail fault, post, φ, before, now => post (.error fault) φ before now
  | read next, post, φ, before, now => (next now.2).Keeps env c post φ before now
  | write s next, post, φ, before, now => next.Keeps env c post φ before (now.1, s)
  | ask q next, post, φ, before, now =>
    (env.atOnce q → ∀ r w, env.answers q now r w →
      (next r).Keeps env c post φ before (w, now.2)) ∧
    (¬ env.atOnce q → ∃ φ', c.moves φ before φ' now ∧ c.rests φ' q ∧
      ∀ later r w, c.rely φ' later → env.answers q later r w →
        (next r).Keeps env c post φ' later (w, later.2))

variable {env : Climate σ A R W} {c : Contract σ A W α Φ} {φ : Φ} {before now : W × σ}

theorem Keeps.mono {p : Program σ A R β} {post post' : Ending σ W β Φ}
    (h : p.Keeps env c post φ before now)
    (hpost : ∀ result φ before now, post result φ before now → post' result φ before now) :
    p.Keeps env c post' φ before now := by
  induction p generalizing φ before now with
  | done value => exact hpost _ _ _ _ h
  | fail fault => exact hpost _ _ _ _ h
  | read next ih => exact ih now.2 h
  | write s next ih => exact ih h
  | ask q next ih =>
    obtain ⟨honce, hlater⟩ := h
    refine ⟨fun hq r w hr => ih r (honce hq r w hr), fun hq => ?_⟩
    obtain ⟨φ', hmoves, hrests, hnext⟩ := hlater hq
    exact ⟨φ', hmoves, hrests, fun later r w hrely hr => ih r (hnext later r w hrely hr)⟩

theorem keeps_bind {p : Program σ A R β} {f : β → Program σ A R γ} {post : Ending σ W γ Φ} :
    (p.bind f).Keeps env c post φ before now ↔
      p.Keeps env c (fun result φ before now => match result with
        | .ok value => (f value).Keeps env c post φ before now
        | .error fault => post (.error fault) φ before now) φ before now := by
  induction p generalizing φ before now with
  | done value => exact Iff.rfl
  | fail fault => exact Iff.rfl
  | read next ih => exact ih now.2
  | write s next ih => exact ih
  | ask q next ih =>
    refine and_congr ?_ ?_
    · exact forall_congr' fun _ => forall₃_congr fun r w _ => ih r
    · refine forall_congr' fun _ => exists_congr fun φ' => and_congr_right fun _ =>
        and_congr_right fun _ => ?_
      exact forall₃_congr fun later r w => forall₂_congr fun _ _ => ih r

theorem keeps_modify_bind {change : σ → σ} {f : Unit → Program σ A R γ} {post : Ending σ W γ Φ} :
    ((modify change).bind f).Keeps env c post φ before now ↔
      (f ()).Keeps env c post φ before (now.1, change now.2) :=
  Iff.rfl

theorem keeps_attempt {p : Program σ A R β} {post : Ending σ W (Result β) Φ} :
    p.attempt.Keeps env c post φ before now ↔
      p.Keeps env c (fun result => post (.ok result)) φ before now := by
  induction p generalizing φ before now with
  | done value => exact Iff.rfl
  | fail fault => exact Iff.rfl
  | read next ih => exact ih now.2
  | write s next ih => exact ih
  | ask q next ih =>
    refine and_congr ?_ ?_
    · exact forall_congr' fun _ => forall₃_congr fun r w _ => ih r
    · refine forall_congr' fun _ => exists_congr fun φ' => and_congr_right fun _ =>
        and_congr_right fun _ => ?_
      exact forall₃_congr fun later r w => forall₂_congr fun _ _ => ih r

theorem keeps_ofResult {result : Result β} {post : Ending σ W β Φ} :
    (ofResult result : Program σ A R β).Keeps env c post φ before now ↔
      post result φ before now := by
  cases result with
  | ok value => exact Iff.rfl
  | error fault => exact Iff.rfl

theorem keeps_rescueIf {p : Program σ A R β} {accepts : Fault → Bool}
    {recover : Fault → Program σ A R β} {post : Ending σ W β Φ} :
    (p.rescueIf accepts recover).Keeps env c post φ before now ↔
      p.Keeps env c (fun result φ before now => match result with
        | .ok value => post (.ok value) φ before now
        | .error fault =>
          if accepts fault then (recover fault).Keeps env c post φ before now
          else post (.error fault) φ before now) φ before now := by
  have hpost : ∀ (result : Result β) (φ : Φ) (before now : W × σ),
      ((fun
        | .ok value => done value
        | .error fault => if accepts fault then recover fault else fail fault :
          Result β → Program σ A R β) result).Keeps env c post φ before now ↔
      (match result with
        | .ok value => post (.ok value) φ before now
        | .error fault =>
          if accepts fault then (recover fault).Keeps env c post φ before now
          else post (.error fault) φ before now) := by
    intro result φ before now
    cases result with
    | ok value => exact Iff.rfl
    | error fault =>
      by_cases h : accepts fault
      · simp only [h, ↓reduceIte]
      · simp only [h, Bool.false_eq_true, ↓reduceIte]
        exact Iff.rfl
  unfold rescueIf
  rw [keeps_bind, keeps_attempt]
  exact ⟨fun h => h.mono fun result φ before now => (hpost result φ before now).mp,
    fun h => h.mono fun result φ before now => (hpost result φ before now).mpr⟩

theorem keeps_ensure {p : Program σ A R β} {last : Program σ A R Unit} {post : Ending σ W β Φ} :
    (p.ensure last).Keeps env c post φ before now ↔
      p.Keeps env c (fun result => last.Keeps env c fun
        | .ok _ => post result
        | .error fault => post (.error fault)) φ before now := by
  have hlast : ∀ (result : Result β) (φ : Φ) (before now : W × σ),
      (last.bind fun _ => ofResult result).Keeps env c post φ before now ↔
      last.Keeps env c (fun
        | .ok _ => post result
        | .error fault => post (.error fault)) φ before now := by
    intro result φ before now
    rw [keeps_bind]
    refine ⟨fun h => h.mono ?_, fun h => h.mono ?_⟩
    · rintro (fault | value) φ before now hend
      · exact hend
      · exact keeps_ofResult.mp hend
    · rintro (fault | value) φ before now hend
      · exact hend
      · exact keeps_ofResult.mpr hend
  unfold ensure
  rw [keeps_bind, keeps_attempt]
  exact ⟨fun h => h.mono fun result φ before now => (hlast result φ before now).mp,
    fun h => h.mono fun result φ before now => (hlast result φ before now).mpr⟩

/-- What keeps a contract keeps another one that sees less of the phases it comes to. -/
theorem Keeps.transport {d : Contract σ A W δ Ψ} {p : Program σ A R β} {post : Ending σ W β Φ}
    {post' : Ending σ W β Ψ} (f : Φ → Ψ) (seen : Φ → Prop)
    (hrely : ∀ φ x, d.rely (f φ) x → c.rely φ x) (hrests : ∀ φ q, c.rests φ q → d.rests (f φ) q)
    (hmoves : ∀ φ x φ' y, seen φ → c.moves φ x φ' y → seen φ' ∧ d.moves (f φ) x (f φ') y)
    (hpost : ∀ result φ x y, seen φ → post result φ x y → post' result (f φ) x y)
    (hseen : seen φ) (h : p.Keeps env c post φ before now) :
    p.Keeps env d post' (f φ) before now := by
  induction p generalizing φ before now with
  | done value => exact hpost _ _ _ _ hseen h
  | fail fault => exact hpost _ _ _ _ hseen h
  | read next ih => exact ih now.2 hseen h
  | write s next ih => exact ih hseen h
  | ask q next ih =>
    obtain ⟨honce, hlater⟩ := h
    refine ⟨fun hq r w hr => ih r hseen (honce hq r w hr), fun hq => ?_⟩
    obtain ⟨φ', hturn, hrest, hnext⟩ := hlater hq
    obtain ⟨hseen', hturn'⟩ := hmoves _ _ _ _ hseen hturn
    refine ⟨f φ', hturn', hrests _ _ hrest, fun later r w hr hanswer => ?_⟩
    exact ih r hseen' (hnext later r w (hrely _ _ hr) hanswer)

end Program

section

variable {phase : Nat → Φ} {who i : Nat} {φ : Φ}

/-- Who was in a phase that is not the one left is still in it. -/
theorem update_of_not {P : Φ → Prop} (hi : P (phase i)) (hwho : ¬ P (phase who)) :
    P (Function.update phase who φ i) := by
  rw [Function.update_of_ne]
  · exact hi
  · rintro rfl
    exact hwho hi

/-- What is held by one task only still is, if nobody else holds what a task comes to hold. -/
theorem apart_update {β : Type} {P : Φ → β → Prop}
    (hbefore : ∀ i j b, P (phase i) b → P (phase j) b → i = j)
    (hnew : ∀ i b, i ≠ who → P φ b → ¬ P (phase i) b) (i j : Nat) (b : β)
    (hi : P (Function.update phase who φ i) b)
    (hj : P (Function.update phase who φ j) b) : i = j := by
  by_cases hwho : i = who
  · by_cases hwho' : j = who
    · rw [hwho, hwho']
    · rw [hwho, Function.update_self] at hi
      rw [Function.update_of_ne hwho'] at hj
      exact absurd hj (hnew j b hwho' hi)
  · rw [Function.update_of_ne hwho] at hi
    by_cases hwho' : j = who
    · rw [hwho', Function.update_self] at hj
      exact absurd hi (hnew i b hwho hj)
    · rw [Function.update_of_ne hwho'] at hj
      exact hbefore i j b hi hj

end

/-- What ensembles do of which only turns and phases are seen. -/
inductive Plays (env : Climate σ A R W) (contract : Nat → Contract σ A W α Φ) (x : W × σ) :
    List (Move σ W) → W × σ → (Nat → Φ) → Prop where
  | start : Plays env contract x [] x fun i => (contract i).start
  | turn {history : List (Move σ W)} {s y : W × σ} {phase : Nat → Φ} (who : Nat) {φ : Φ} :
    Plays env contract x history s phase → (contract who).moves (phase who) s φ y →
    Plays env contract x (history ++ [⟨who, s, y⟩]) y (Function.update phase who φ)
  | happen {history : List (Move σ W)} {s y : W × σ} {phase : Nat → Φ} :
    Plays env contract x history s phase → env.happens s y →
    Plays env contract x history y phase

/-- A call that stands where its phase says, and keeps the contract from there. -/
def Contract.Stands (env : Climate σ A R W) (c : Contract σ A W α Φ) : Stage σ A R α → Φ → Prop
  | .idle, φ => φ = c.start
  | .asking q next, φ => c.rests φ q ∧ ∀ x r w, c.rely φ x → env.answers q x r w →
    (next r).Keeps env c c.closes φ x (w, x.2)
  | .ended result, φ => c.ends φ result

variable {env : Climate σ A R W}

theorem Program.Segment.stands {c : Contract σ A W α Φ} {p : Program σ A R α}
    {stage : Stage σ A R α} {now y : W × σ} (h : p.Segment env now stage y) {φ : Φ}
    {before : W × σ} (hkeeps : p.Keeps env c c.closes φ before now) :
    ∃ φ', c.moves φ before φ' y ∧ c.Stands env stage φ' := by
  induction h with
  | done value x => exact hkeeps
  | fail fault x => exact hkeeps
  | read _ ih => exact ih hkeeps
  | write _ ih => exact ih hkeeps
  | answered honce hanswer _ ih => exact ih (hkeeps.1 honce _ _ hanswer)
  | asks hlater =>
    obtain ⟨φ', hmoves, hrests, hnext⟩ := hkeeps.2 hlater
    exact ⟨φ', hmoves, hrests, hnext⟩

/-- Where every program keeps its contract and every call can rely on what it
relies on, an ensemble does nothing but what the contracts say. -/
theorem Reaches.plays (contract : Nat → Contract σ A W α Φ) {task : Nat → Program σ A R α}
    {x : W × σ}
    (hkeeps : ∀ i y, env.admits i y → (contract i).rely (contract i).start y →
      (task i).Keeps env (contract i) (contract i).closes (contract i).start y y)
    (hrely : ∀ history s phase, Plays env contract x history s phase →
      ∀ i, (contract i).rely (phase i) s)
    {history : List (Move σ W)} {e : Ensemble σ A R W α} (h : Reaches env task x history e) :
    ∃ phase, Plays env contract x history e.site phase ∧
      ∀ i, (contract i).Stands env (e.stage i) (phase i) := by
  have hturn : ∀ {history : List (Move σ W)} {e : Ensemble σ A R W α} {phase : Nat → Φ}
      {who : Nat} {stage : Stage σ A R α} {y : W × σ},
      Plays env contract x history e.site phase →
      (∀ i, (contract i).Stands env (e.stage i) (phase i)) →
      (∃ φ', (contract who).moves (phase who) e.site φ' y ∧ (contract who).Stands env stage φ') →
      ∃ phase', Plays env contract x (history ++ [⟨who, e.site, y⟩]) (e.turn who stage y).site
        phase' ∧ ∀ i, (contract i).Stands env ((e.turn who stage y).stage i) (phase' i) := by
    intro history e phase who stage y hplays hstands ⟨φ', hmoves, hstage⟩
    refine ⟨_, hplays.turn who hmoves, fun i => ?_⟩
    by_cases hi : i = who
    · subst hi
      rw [Ensemble.turn_stage_self, Function.update_self]
      exact hstage
    · rw [Ensemble.turn_stage_of_ne hi, Function.update_of_ne hi]
      exact hstands i
  induction h with
  | start => exact ⟨_, .start, fun i => rfl⟩
  | begin who _ hidle hadmits hsegment ih =>
    obtain ⟨phase, hplays, hstands⟩ := ih
    have hfresh := hstands who
    rw [hidle] at hfresh
    refine hturn hplays hstands (hsegment.stands ?_)
    have hready := hrely _ _ _ hplays who
    rw [show phase who = (contract who).start from hfresh] at hready ⊢
    exact hkeeps who _ hadmits hready
  | resume who _ hasking hanswer hsegment ih =>
    obtain ⟨phase, hplays, hstands⟩ := ih
    have hopen := hstands who
    rw [hasking] at hopen
    exact hturn hplays hstands
      (hsegment.stands (hopen.2 _ _ _ (hrely _ _ _ hplays who) hanswer))
  | happen _ hhappens ih =>
    obtain ⟨phase, hplays, hstands⟩ := ih
    exact ⟨phase, hplays.happen hhappens, hstands⟩

end Pageflow
