import Pageflow.Proofs.Activity.Calm

/-! What a call keeps up while parts of it run that know nothing of the call: such a part may
ask anything, and whatever it changes itself is looked at apart. -/
namespace Pageflow

/-- What a call keeps up from turn to turn. `holds` speaks of the phase in which the turn began
and of what was shared then and is now. -/
structure Upkeep (W α Φ : Type) where
  env : Climate State Ask Ask.Reply W
  contract : Contract State Ask W α Φ
  holds : Φ → W × State → W × State → Prop
  /-- Whether parts of the call may be cancelled. -/
  cancels : Prop
  spares : ¬ cancels → env.Spares
  answered : ∀ {q φ before now r w}, env.atOnce q → env.answers q now r w → holds φ before now →
    holds φ before (w, now.2)
  stopped : ∀ {q φ before now}, ¬ env.atOnce q → holds φ before now →
    ∃ φ', contract.moves φ before φ' now ∧ contract.rests φ' q ∧
      ∀ later r w, contract.rely φ' later → env.answers q later r w → holds φ' later (w, later.2)

variable {W α β γ Φ : Type} {u : Upkeep W α Φ}

namespace Upkeep

/-- A result that can come of a part. -/
def Fine (u : Upkeep W α Φ) (result : Result β) : Prop := result = .error .cancelled → u.cancels

/-- A part of a call, through which the call keeps up what it does. -/
def Kept (u : Upkeep W α Φ) (p : Activity β) : Prop :=
  ∀ φ before now, u.holds φ before now → p.Keeps u.env u.contract
    (fun result φ before now => u.holds φ before now ∧ u.Fine result) φ before now

theorem fine_ok (value : β) : u.Fine (.ok value : Result β) := nofun

theorem Fine.error {fault : Fault} (h : u.Fine (.error fault : Result β)) :
    u.Fine (.error fault : Result γ) := by
  rintro ⟨⟩
  exact h rfl

theorem fine_of_spares {result : Result β} (h : ¬ u.cancels → Uncancelled result) :
    u.Fine result := by
  intro hcancelled
  by_contra hspares
  exact h hspares hcancelled

theorem fine_of_uncancelled {result : Result β} (h : Uncancelled result) : u.Fine result :=
  fine_of_spares fun _ => h

end Upkeep

open Upkeep

/-! ## Laws -/

theorem kept_done (value : β) : u.Kept (.done value) := fun _ _ _ h => ⟨h, fine_ok value⟩

theorem kept_fault {fault : Fault} (hfault : u.Fine (.error fault : Result γ)) :
    u.Kept (.fail fault : Activity β) :=
  fun _ _ _ h => ⟨h, hfault.error⟩

theorem kept_fail {fault : Fault} (hfault : fault.isCancelled = false) :
    u.Kept (.fail fault : Activity β) := by
  refine kept_fault (γ := β) (fine_of_uncancelled ?_)
  rintro ⟨⟩
  cases hfault

theorem kept_ofResult {result : Result β} (hresult : Uncancelled result) :
    u.Kept (.ofResult result) :=
  fun _ _ _ h => Program.keeps_ofResult.mpr ⟨h, fine_of_uncancelled hresult⟩

theorem kept_read {next : State → Activity β} (h : ∀ s, u.Kept (next s)) :
    u.Kept (.read next) :=
  fun φ before now => h now.2 φ before now

theorem kept_modify {f : State → State}
    (h : ∀ φ before now, u.holds φ before now → u.holds φ before (now.1, f now.2)) :
    u.Kept (Program.modify f) :=
  fun φ before now hholds => ⟨h φ before now hholds, fine_ok ()⟩

theorem kept_update {f : State → β × State}
    (h : ∀ φ before now, u.holds φ before now → u.holds φ before (now.1, (f now.2).2)) :
    u.Kept (Program.update f) :=
  fun φ before now hholds => ⟨h φ before now hholds, fine_ok _⟩

theorem kept_ask {q : Ask} {next : Ask.Reply q → Activity β}
    (hnext : ∀ reply, (¬ u.cancels → q.Spares reply) → u.Kept (next reply)) :
    u.Kept (.ask q next) := by
  intro φ before now hholds
  refine ⟨fun honce r w hr => ?_, fun hlater => ?_⟩
  · exact hnext r (fun hspares => u.spares hspares _ _ _ _ hr) φ before _
      (u.answered honce hr hholds)
  · obtain ⟨φ', hmoves, hrests, hgoes⟩ := u.stopped hlater hholds
    refine ⟨φ', hmoves, hrests, fun later r w hrely hr => ?_⟩
    exact hnext r (fun hspares => u.spares hspares _ _ _ _ hr) φ' later _ (hgoes later r w hrely hr)

/-- A question of which the answer is the result. -/
theorem kept_question {q : Ask} {result : Ask.Reply q → Result β}
    (h : ∀ reply, q.Spares reply → Uncancelled (result reply)) :
    u.Kept (.ask q fun reply => .ofResult (result reply)) :=
  kept_ask fun reply hspares _ _ _ hholds => Program.keeps_ofResult.mpr
    ⟨hholds, fine_of_spares fun hcancels => h reply (hspares hcancels)⟩

theorem kept_bind {p : Activity β} {f : β → Activity γ} (hp : u.Kept p)
    (hf : ∀ value, u.Kept (f value)) : u.Kept (p.bind f) := by
  intro φ before now hholds
  refine Program.keeps_bind.mpr ((hp φ before now hholds).mono ?_)
  rintro (fault | value) φ before now ⟨hholds, hfine⟩
  · exact ⟨hholds, hfine.error⟩
  · exact hf value φ before now hholds

/-- A part that looks at the fault of another one. -/
theorem kept_bind_attempt {p : Activity β} {f : Result β → Activity γ} (hp : u.Kept p)
    (hf : ∀ result, u.Fine result → u.Kept (f result)) : u.Kept (p.attempt.bind f) := by
  intro φ before now hholds
  refine Program.keeps_bind.mpr (Program.keeps_attempt.mpr ((hp φ before now hholds).mono ?_))
  rintro result φ before now ⟨hholds, hfine⟩
  exact hf result hfine φ before now hholds

theorem kept_attempt {p : Activity β} (hp : u.Kept p) : u.Kept p.attempt := by
  have hbind := kept_bind_attempt hp (f := .done) fun result _ => kept_done result
  rwa [Program.bind_done] at hbind

theorem kept_rescueIf {p : Activity β} {accepts : Fault → Bool} {recover : Fault → Activity β}
    (hp : u.Kept p) (hrecover : ∀ fault, u.Kept (recover fault)) :
    u.Kept (p.rescueIf accepts recover) := by
  refine kept_bind_attempt hp ?_
  rintro (fault | value) hfine
  · dsimp only
    split
    · exact hrecover fault
    · exact kept_fault hfine
  · exact kept_done value

theorem kept_ensure {p : Activity β} {last : Activity Unit} (hp : u.Kept p)
    (hlast : u.Kept last) : u.Kept (p.ensure last) := by
  refine kept_bind_attempt hp fun result hfine => kept_bind hlast fun _ => ?_
  cases result with
  | ok value => exact kept_done value
  | error fault => exact kept_fault hfine

theorem kept_ite {c : Prop} [Decidable c] {p q : Activity β} (hp : u.Kept p) (hq : u.Kept q) :
    u.Kept (if c then p else q) := by
  split
  · exact hp
  · exact hq

/-! ## Parts that are cancelled from inside -/

section

variable {broken : Φ → W × State → W × State → Prop}

/-- A part through which the call keeps up what it does, unless the part is cancelled: then there
is `broken`. -/
def Upkeep.Breaks (u : Upkeep W α Φ) (broken : Φ → W × State → W × State → Prop)
    (p : Activity β) : Prop :=
  ∀ φ before now, u.holds φ before now → p.Keeps u.env u.contract
    (fun result φ before now => (result = .error .cancelled → broken φ before now) ∧
      (Uncancelled result → u.holds φ before now)) φ before now

theorem Upkeep.Kept.breaks {p : Activity β} (hp : u.Kept p)
    (hbroken : u.cancels → ∀ φ before now, u.holds φ before now → broken φ before now) :
    u.Breaks broken p :=
  fun φ before now hholds => (hp φ before now hholds).mono fun _ _ _ _ hend =>
    ⟨fun hcancelled => hbroken (hend.2 hcancelled) _ _ _ hend.1, fun _ => hend.1⟩

theorem Upkeep.Breaks.kept {p : Activity β} (hp : u.Breaks u.holds p) (hcancels : u.cancels) :
    u.Kept p := by
  refine fun φ before now hholds => (hp φ before now hholds).mono ?_
  intro result φ before now hend
  refine ⟨?_, fun _ => hcancels⟩
  by_cases hcancelled : result = .error .cancelled
  · exact hend.1 hcancelled
  · exact hend.2 hcancelled

theorem breaks_bind {p : Activity β} {f : β → Activity γ} (hp : u.Breaks broken p)
    (hf : ∀ value, u.Breaks broken (f value)) : u.Breaks broken (p.bind f) := by
  intro φ before now hholds
  refine Program.keeps_bind.mpr ((hp φ before now hholds).mono ?_)
  rintro (fault | value) φ before now ⟨hbroken, hkept⟩
  · exact ⟨fun hcancelled => hbroken (by cases hcancelled; rfl), fun hspared => hkept hspared.error⟩
  · exact hf value φ before now (hkept (uncancelled_ok value))

/-- A part that looks at the fault of one that is not cancelled from inside. -/
theorem breaks_bind_attempt {p : Activity β} {f : Result β → Activity γ} (hp : u.Kept p)
    (hf : ∀ result, u.Fine result → u.Breaks broken (f result)) :
    u.Breaks broken (p.attempt.bind f) := by
  intro φ before now hholds
  refine Program.keeps_bind.mpr (Program.keeps_attempt.mpr ((hp φ before now hholds).mono ?_))
  rintro result φ before now ⟨hholds, hfine⟩
  exact hf result hfine φ before now hholds

theorem breaks_rescueIf {p : Activity β} {accepts : Fault → Bool}
    {recover : Fault → Activity β} (haccepts : accepts .cancelled = false)
    (hp : u.Breaks broken p) (hrecover : ∀ fault, u.Breaks broken (recover fault)) :
    u.Breaks broken (p.rescueIf accepts recover) := by
  intro φ before now hholds
  refine Program.keeps_rescueIf.mpr ((hp φ before now hholds).mono ?_)
  rintro (fault | value) φ before now ⟨hbroken, hkept⟩
  · dsimp only
    split
    · rename_i haccepted
      refine hrecover fault φ before now (hkept ?_)
      rintro ⟨⟩
      rw [haccepts] at haccepted
      cases haccepted
    · exact ⟨hbroken, hkept⟩
  · exact ⟨hbroken, hkept⟩

theorem breaks_ite {c : Prop} [Decidable c] {p q : Activity β} (hp : u.Breaks broken p)
    (hq : u.Breaks broken q) : u.Breaks broken (if c then p else q) := by
  split
  · exact hp
  · exact hq

end

/-! ## Calm parts -/

variable {env : Climate State Ask Ask.Reply W} {within : W × State → W × State → Prop}

/-- Turns that stay within a relation while nothing is cancelled. -/
def Upkeep.inside (htolerates : env.Tolerates within) (hspares : env.Spares) :
    Upkeep W Unit Unit where
  env
  contract := .within within
  holds _ := within
  cancels := False
  spares _ := hspares
  answered _ hr hwithin := htolerates.trans _ _ _ hwithin (htolerates.answers _ _ _ _ hr)
  stopped _ hwithin := ⟨(), hwithin, trivial, fun _ _ _ _ hr => htolerates.answers _ _ _ _ hr⟩

theorem Upkeep.Kept.calm {htolerates : env.Tolerates within} {hspares : env.Spares}
    {p : Activity β} (h : (Upkeep.inside htolerates hspares).Kept p) :
    p.Calm env within Uncancelled :=
  fun before now => h () before now

/-! ## Questions -/

open Browser

theorem Browser.PageRef.kept_call (page : PageRef) (c : PageCall) : u.Kept (page.call c) :=
  kept_question fun _ => id

theorem Browser.ElementRef.kept_call (element : ElementRef) (c : ElementCall) :
    u.Kept (element.call c) :=
  kept_question fun _ => id

theorem Browser.BrowserCall.kept_run (c : BrowserCall) : u.Kept c.run :=
  kept_question fun _ => id

theorem Activity.kept_elapsed : u.Kept elapsed := kept_ask fun _ _ => kept_done _

theorem Activity.kept_wall : u.Kept wall := kept_ask fun _ _ => kept_done _

theorem Activity.kept_now : u.Kept now := kept_ask fun _ _ => kept_done _

theorem Activity.kept_sleep (seconds : Double) : u.Kept (sleep seconds) :=
  kept_question fun _ => id

theorem Activity.kept_sleepMs (ms : Int) : u.Kept (sleepMs ms) := by
  unfold sleepMs
  split
  · exact kept_fail rfl
  · exact kept_sleep _

end Pageflow
