import Pageflow.Proofs.Activity.Asked
import Pageflow.Proofs.Activity.Upkeep

/-! Parts of a call that succeed whatever they are answered. What is promised of a call turn by turn
holds of its run in given surroundings, so such a part has a run that ends with a value. -/
namespace Pageflow

variable {W α β γ Φ : Type} {u : Upkeep W α Φ}

/-- A part that ends with a value, and through which the call keeps up what it does. -/
def Upkeep.Succeeds (u : Upkeep W α Φ) (p : Activity β) : Prop :=
  ∀ φ before now, u.holds φ before now → p.Keeps u.env u.contract
    (fun result φ before now => u.holds φ before now ∧ ∃ value, result = .ok value) φ before now

open Upkeep

/-! ## Laws -/

theorem succeeds_done (value : β) : u.Succeeds (.done value) := fun _ _ _ h => ⟨h, value, rfl⟩

theorem succeeds_read {next : State → Activity β} (h : ∀ s, u.Succeeds (next s)) :
    u.Succeeds (.read next) :=
  fun φ before now => h now.2 φ before now

theorem succeeds_update {f : State → β × State}
    (h : ∀ φ before now, u.holds φ before now → u.holds φ before (now.1, (f now.2).2)) :
    u.Succeeds (Program.update f) :=
  fun φ before now hholds => ⟨h φ before now hholds, _, rfl⟩

theorem succeeds_modify {f : State → State}
    (h : ∀ φ before now, u.holds φ before now → u.holds φ before (now.1, f now.2)) :
    u.Succeeds (Program.modify f) :=
  fun φ before now hholds => ⟨h φ before now hholds, (), rfl⟩

theorem succeeds_ask {q : Ask} {next : Ask.Reply q → Activity β}
    (hnext : ∀ x reply w, u.env.answers q x reply w → u.Succeeds (next reply)) :
    u.Succeeds (.ask q next) := by
  intro φ before now hholds
  refine ⟨fun honce r w hr => ?_, fun hlater => ?_⟩
  · exact hnext _ _ _ hr φ before _ (u.answered honce hr hholds)
  · obtain ⟨φ', hmoves, hrests, hgoes⟩ := u.stopped hlater hholds
    refine ⟨φ', hmoves, hrests, fun later r w hrely hr => ?_⟩
    exact hnext _ _ _ hr φ' later _ (hgoes later r w hrely hr)

theorem Upkeep.Succeeds.bind {p : Activity β} {f : β → Activity γ} (hp : u.Succeeds p)
    (hf : ∀ value, u.Succeeds (f value)) : u.Succeeds (p.bind f) := by
  intro φ before now hholds
  refine Program.keeps_bind.mpr ((hp φ before now hholds).mono ?_)
  rintro _ φ before now ⟨hholds, value, rfl⟩
  exact hf value φ before now hholds

/-- A part that goes on whatever became of another one. -/
theorem succeeds_bind_attempt {p : Activity β} {f : Result β → Activity γ} (hp : u.Kept p)
    (hf : ∀ result, u.Fine result → u.Succeeds (f result)) : u.Succeeds (p.attempt.bind f) := by
  intro φ before now hholds
  refine Program.keeps_bind.mpr (Program.keeps_attempt.mpr ((hp φ before now hholds).mono ?_))
  rintro result φ before now ⟨hholds, hfine⟩
  exact hf result hfine φ before now hholds

/-- Where nothing is cancelled, every fault is recovered from. -/
theorem succeeds_rescue {p : Activity β} {recover : Fault → Activity β} (hspares : ¬ u.cancels)
    (hp : u.Kept p) (hrecover : ∀ fault, u.Succeeds (recover fault)) :
    u.Succeeds (p.rescue recover) := by
  refine succeeds_bind_attempt hp ?_
  rintro (fault | value) hfine
  · have hspared : fault.isCancelled = false := by
      refine (Uncancelled.not_isCancelled (α := β)) fun hcancelled => hspares (hfine hcancelled)
    simp only [hspared, Bool.not_false, ↓reduceIte]
    exact hrecover fault
  · exact succeeds_done value

theorem Upkeep.Succeeds.ensure {p : Activity β} {last : Activity Unit} (hp : u.Succeeds p)
    (hlast : u.Succeeds last) : u.Succeeds (p.ensure last) := by
  intro φ before now hholds
  refine Program.keeps_ensure.mpr ((hp φ before now hholds).mono ?_)
  rintro _ φ before now ⟨hholds, value, rfl⟩
  refine (hlast φ before now hholds).mono ?_
  rintro _ φ before now ⟨hholds, _, rfl⟩
  exact ⟨hholds, value, rfl⟩

theorem succeeds_ite {c : Prop} [Decidable c] {p q : Activity β} (hp : u.Succeeds p)
    (hq : u.Succeeds q) : u.Succeeds (if c then p else q) := by
  split
  · exact hp
  · exact hq

theorem Activity.succeeds_elapsed : u.Succeeds elapsed := succeeds_ask fun _ _ _ _ => succeeds_done _

theorem Activity.succeeds_now : u.Succeeds now := succeeds_ask fun _ _ _ _ => succeeds_done _

/-- A part that is never broken off. -/
theorem Upkeep.Breaks.kept_of_never {p : Activity β} (hp : u.Breaks (fun _ _ _ => False) p) :
    u.Kept p := by
  refine fun φ before now hholds => (hp φ before now hholds).mono ?_
  rintro result φ before now ⟨hnever, hkept⟩
  exact ⟨hkept hnever, fun hcancelled => (hnever hcancelled).elim⟩

theorem Upkeep.Succeeds.calm {env : Climate State Ask Ask.Reply W}
    {within : W × State → W × State → Prop} {htolerates : env.Tolerates within}
    {hspares : env.Spares} {p : Activity Unit} (h : (Upkeep.inside htolerates hspares).Succeeds p) :
    p.Calm env within (· = .ok ()) := by
  refine fun before now hwithin => (h () before now hwithin).mono ?_
  rintro _ _ _ _ ⟨hwithin, _, rfl⟩
  exact ⟨hwithin, rfl⟩

/-! ## Runs -/

section

variable {σ A : Type} {R : A → Type}

/-- Given surroundings as those of a call: whoever waits is answered as they say, and nothing
happens but by answers. -/
def Responses.climate (env : Responses σ A R W) : Climate σ A R W where
  admits _ _ := True
  atOnce _ := False
  answers q y r w := ∃ x, env q x = (r, y) ∧ w = y.1
  happens _ _ := False

theorem Responses.climate_answers (env : Responses σ A R W) (q : A) (x : W × σ) :
    env.climate.answers q (env q x).2 (env q x).1 (env q x).2.1 :=
  ⟨x, rfl, rfl⟩

/-- A run ends as the contract of its call has it, if a call that waits can rely on how the answers
leave things. -/
theorem Program.Keeps.run {env : Responses σ A R W} {c : Contract σ A W α Φ}
    {p : Program σ A R β} {post : Ending σ W β Φ} {φ : Φ} {before now : W × σ}
    (hrely : ∀ φ x φ' y q, c.moves φ x φ' y → c.rely φ' (env q y).2)
    (h : p.Keeps env.climate c post φ before now) :
    ∃ φ' before', post (p.run env now).1 φ' before' (p.run env now).2 := by
  induction p generalizing φ before now with
  | done value => exact ⟨φ, before, h⟩
  | fail fault => exact ⟨φ, before, h⟩
  | read next ih => exact ih now.2 h
  | write s next ih =>
    have hnext : next.Keeps env.climate c post φ before (now.1, s) := h
    exact ih hnext
  | ask q next ih =>
    obtain ⟨φ', hmoves, -, hnext⟩ := h.2 id
    exact ih _ (hnext _ _ _ (hrely _ _ _ _ q hmoves) (env.climate_answers q now))

theorem Program.Calm.run (env : Responses σ A R W) {within : W × σ → W × σ → Prop}
    {fine : Result α → Prop} {p : Program σ A R α} (h : p.Calm env.climate within fine)
    (hrefl : ∀ x, within x x) (x : W × σ) : fine (p.run env x).1 := by
  obtain ⟨_, _, hend⟩ := (h x x (hrefl x)).run fun _ _ _ _ _ _ => trivial
  exact hend.2

end

variable {env : Responses State Ask Ask.Reply W} {holds : W × State → Prop}

/-- Whoever waits goes on where the answer leaves things. -/
def Responses.contract (env : Responses State Ask Ask.Reply W) :
    Contract State Ask W Unit (Option (W × State)) where
  start := none
  rely stop later := ∃ x ∈ stop, ∃ q, later = (env q x).2
  rests _ _ := True
  moves _ _ stop now := stop = some now
  ends _ _ := True

variable (holds) in
/-- What a call keeps up in given surroundings, if no answer breaks it. -/
def Upkeep.among (henv : ∀ q x, holds x → holds (env q x).2)
    (hspares : ∀ (q : Ask) x, q.Spares (env q x).1) : Upkeep W Unit (Option (W × State)) where
  env := env.climate
  contract := env.contract
  holds _ _ now := holds now
  cancels := False
  spares _ := by
    rintro q _ _ _ ⟨x, hanswer, rfl⟩
    have hspared := hspares q x
    rwa [hanswer] at hspared
  answered honce := honce.elim
  stopped {q _ _ now} _ hnow := by
    refine ⟨some now, rfl, trivial, ?_⟩
    rintro _ r _ ⟨_, ⟨⟩, q', rfl⟩ ⟨_, -, rfl⟩
    exact henv q' now hnow

/-- What succeeds has a run that ends with a value. -/
theorem Upkeep.Succeeds.runs {henv : ∀ q x, holds x → holds (env q x).2}
    {hspares : ∀ (q : Ask) x, q.Spares (env q x).1} {p : Activity β}
    (h : (Upkeep.among holds henv hspares).Succeeds p) {x : W × State} (hx : holds x) :
    ∃ calls value y, p.Runs env x calls (.ok value) y ∧ holds y := by
  obtain ⟨_, _, hend, value, hvalue⟩ := (h none x x hx).run (by
    rintro _ _ _ y q rfl
    exact ⟨y, rfl, q, rfl⟩)
  exact ⟨_, value, _, ⟨rfl, Prod.ext hvalue rfl⟩, hend⟩

end Pageflow
