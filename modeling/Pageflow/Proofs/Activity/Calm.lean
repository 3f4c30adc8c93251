import Pageflow.Proofs.Activity.Contract
import Pageflow.Proofs.Activity.Run

/-! Programs that are calm: whatever they are answered, what they change of the
shared state stays within a relation, and only some results can come of them.
This is the contract of a call with one phase, and it carries over to a part of
any call whose turns allow such changes. -/
namespace Pageflow

variable {σ A : Type} {R : A → Type} {W α β Φ : Type}

/-- The contract of a call of which no more is to be seen than that each of its
turns stays within a relation. -/
def Contract.within (within : W × σ → W × σ → Prop) : Contract σ A W Unit Unit where
  start := ()
  rely _ _ := True
  rests _ _ := True
  moves _ before _ after := within before after
  ends _ _ := True

/-- A relation that a turn may stay within, part by part, also where answers
change the world. -/
structure Climate.Tolerates (env : Climate σ A R W) (within : W × σ → W × σ → Prop) : Prop where
  refl : ∀ x, within x x
  trans : ∀ x y z, within x y → within y z → within x z
  answers : ∀ q x r w, env.answers q x r w → within x (w, x.2)

namespace Program

/-- The turns stay within `within` and the result is one of `fine`. -/
def Calm (env : Climate σ A R W) (within : W × σ → W × σ → Prop) (fine : Result α → Prop)
    (p : Program σ A R α) : Prop :=
  ∀ before now, within before now →
    p.Keeps env (Contract.within within)
      (fun result _ before now => within before now ∧ fine result) () before now

variable {env : Climate σ A R W} {within : W × σ → W × σ → Prop} {fine : Result α → Prop}
  {fine' : Result β → Prop}

theorem calm_done {value : α} (h : fine (.ok value)) :
    (done value : Program σ A R α).Calm env within fine :=
  fun _ _ hwithin => ⟨hwithin, h⟩

theorem calm_fail {fault : Fault} (h : fine (.error fault)) :
    (fail fault : Program σ A R α).Calm env within fine :=
  fun _ _ hwithin => ⟨hwithin, h⟩

theorem calm_bind {p : Program σ A R α} {f : α → Program σ A R β} (hp : p.Calm env within fine)
    (hf : ∀ value, fine (.ok value) → (f value).Calm env within fine')
    (hfault : ∀ fault, fine (.error fault) → fine' (.error fault)) :
    (p.bind f).Calm env within fine' := by
  intro before now hwithin
  rw [keeps_bind]
  refine (hp before now hwithin).mono ?_
  rintro (fault | value) φ before now ⟨hnow, hend⟩
  · exact ⟨hnow, hfault fault hend⟩
  · exact hf value hend before now hnow

/-- A calm part of a call, `begun` being where it last went on from, keeps the call's
contract if what it changes does not matter to the turn that leads to `stop`, and one may
stay at `stop`. Only turns that begin in a phase of `origin` have to end well. -/
theorem Keeps.of_within {c : Contract σ A W β Φ} {p : Program σ A R α} {post : Ending σ W α Φ}
    {stop : Φ} (origin : Φ → Prop) (hstop : origin stop)
    (hstable : ∀ φ before x y, c.moves φ before stop x → within x y → c.moves φ before stop y)
    (hrests : ∀ q, c.rests stop q) (hstays : ∀ x, c.rely stop x → c.moves stop x stop x)
    (hpost : ∀ result φ before x, origin φ → fine result → c.moves φ before stop x →
      post result φ before x)
    {φ : Φ} {before begun now : W × σ} (horigin : origin φ)
    (hbegun : c.moves φ before stop begun)
    (hcalm : p.Keeps env (Contract.within within)
      (fun result _ begun now => within begun now ∧ fine result) () begun now) :
    p.Keeps env c post φ before now := by
  induction p generalizing φ before begun now with
  | done value => exact hpost _ _ _ _ horigin hcalm.2 (hstable _ _ _ _ hbegun hcalm.1)
  | fail fault => exact hpost _ _ _ _ horigin hcalm.2 (hstable _ _ _ _ hbegun hcalm.1)
  | read next ih => exact ih now.2 horigin hbegun hcalm
  | write s next ih => exact ih horigin hbegun hcalm
  | ask q next ih =>
    refine ⟨fun honce r w hr => ih r horigin hbegun (hcalm.1 honce r w hr), fun hlater => ?_⟩
    obtain ⟨_, hwithin, -, hnext⟩ := hcalm.2 hlater
    refine ⟨stop, hstable _ _ _ _ hbegun hwithin, hrests q, fun later r w hrely hr => ?_⟩
    exact ih r hstop (hstays later hrely) (hnext later r w trivial hr)

/-- A calm part of a call keeps the call's contract if what it changes does not
matter to the turn that leads to `stop`, and one may stay at `stop`. -/
theorem Calm.keeps {c : Contract σ A W β Φ} {p : Program σ A R α} {post : Ending σ W α Φ}
    (hp : p.Calm env within fine) (hrefl : ∀ x, within x x) {stop : Φ}
    (hstable : ∀ φ before x y, c.moves φ before stop x → within x y → c.moves φ before stop y)
    (hrests : ∀ q, c.rests stop q) (hstays : ∀ x, c.rely stop x → c.moves stop x stop x)
    (hpost : ∀ result φ before x, fine result → c.moves φ before stop x → post result φ before x)
    {φ : Φ} {before now : W × σ} (hmoves : c.moves φ before stop now) :
    p.Keeps env c post φ before now :=
  .of_within (fun _ => True) trivial hstable hrests hstays
    (fun result φ before x _ => hpost result φ before x) trivial hmoves (hp now now (hrefl now))

/-- A calm part that waits at once: when it ends, the call has stopped at `stop` before. -/
theorem Calm.keeps_waiting {c : Contract σ A W β Φ} {q : A} {next : R q → Program σ A R α}
    {post : Ending σ W α Φ} (hp : (ask q next).Calm env within fine) (hwaits : ¬ env.atOnce q)
    (hrefl : ∀ x, within x x) {stop : Φ}
    (hstable : ∀ φ before x y, c.moves φ before stop x → within x y → c.moves φ before stop y)
    (hrests : ∀ q, c.rests stop q) (hstays : ∀ x, c.rely stop x → c.moves stop x stop x)
    (hpost : ∀ result before x, fine result → c.moves stop before stop x →
      post result stop before x)
    {φ : Φ} {before now : W × σ} (hmoves : c.moves φ before stop now) :
    (ask q next).Keeps env c post φ before now := by
  refine ⟨fun honce => absurd honce hwaits, fun _ => ⟨stop, hmoves, hrests q, ?_⟩⟩
  intro later r w hrely hr
  obtain ⟨_, -, -, hnext⟩ := (hp now now (hrefl now)).2 hwaits
  refine .of_within (· = stop) rfl hstable hrests hstays ?_ rfl (hstays later hrely)
    (hnext later r w trivial hr)
  rintro result _ before x rfl
  exact hpost result before x

end Program
end Pageflow

/-! ## Cancellations

Cancellations come from outside only. Where no answer is one, what activities
ignore they go on after, and no result of a call is a cancellation. -/
namespace Pageflow

variable {α β W : Type}

def Uncancelled (result : Result α) : Prop := result ≠ .error .cancelled

theorem uncancelled_ok (value : α) : Uncancelled (.ok value : Result α) := nofun

theorem Uncancelled.error {fault : Fault} (h : Uncancelled (.error fault : Result α)) :
    Uncancelled (.error fault : Result β) := by
  intro hcancelled
  cases hcancelled
  exact h rfl

theorem uncancelled_error_iff {fault : Fault} :
    Uncancelled (.error fault : Result α) ↔ fault.isCancelled = false := by
  cases fault with
  | cancelled => exact iff_of_false (fun h => h rfl) nofun
  | _ => exact iff_of_true nofun rfl

theorem Uncancelled.not_isCancelled {fault : Fault}
    (h : Uncancelled (.error fault : Result α)) : fault.isCancelled = false :=
  uncancelled_error_iff.mp h

instance : (result : Result α) → Decidable (Uncancelled result)
  | .ok value => .isTrue (uncancelled_ok value)
  | .error _ => decidable_of_iff _ uncancelled_error_iff.symm

theorem Uncancelled.bind {result : Result α} {f : α → Result β} (h : Uncancelled result)
    (hf : ∀ value, Uncancelled (f value)) : Uncancelled (result >>= f) := by
  cases result with
  | error fault => exact h.error
  | ok value => exact hf value

theorem Uncancelled.mapM {f : α → Result β} (h : ∀ a, Uncancelled (f a)) (list : List α) :
    Uncancelled (list.mapM f) := by
  induction list with
  | nil => exact uncancelled_ok []
  | cons a rest ih =>
    have ha := h a
    rw [List.mapM_cons]
    cases hfirst : f a with
    | error fault =>
      rw [hfirst] at ha
      exact ha.error
    | ok value =>
      cases hrest : rest.mapM f with
      | error fault =>
        rw [hrest] at ih
        exact ih.error
      | ok values => exact uncancelled_ok (value :: values)

/-- An answer that is no cancellation. -/
def Ask.Spares : (q : Ask) → Ask.Reply q → Prop
  | .elapsed, _ | .wall, _ | .now, _ | .freshId, _ | .files _, _ | .print _, _ => True
  | .start _, _ | .stop _, _ => True
  | .sleep _, r | .pass, r | .makeDirectory _, r | .post _ _, r | .send _ _, r => Uncancelled r
  | .readLine, r => Uncancelled r
  | .await _ _, r => Uncancelled r
  | .page _ _, r => Uncancelled r
  | .element _ _, r => Uncancelled r
  | .browser _, r => Uncancelled r
  | .upload _ _, r => Uncancelled r
  | .receive _ _, r => Uncancelled r

theorem Ask.spares_refused (q : Ask) : q.Spares q.refused := by
  cases q with
  | elapsed | wall | now | freshId | files | print | start | stop => trivial
  | _ => exact nofun

/-- Surroundings in which nothing is cancelled. -/
def Climate.Spares (env : Climate State Ask Ask.Reply W) : Prop :=
  ∀ q x r w, env.answers q x r w → q.Spares r

end Pageflow
