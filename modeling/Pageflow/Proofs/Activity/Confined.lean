import Pageflow.Proofs.Activity.Asked
import Pageflow.Proofs.Activity.Ensemble

/-! Programs that ask only questions of a kind and change the shared state only in a way. Whatever
the answers, a run of such a program asks nothing else, and what survives its changes and the
answers survives the run. -/
namespace Pageflow.Program

variable {σ A : Type} {R : A → Type} {W α β : Type} {asks asks' : A → Prop}
  {writes writes' : σ → σ → Prop}

/-- From the state `s` on the program asks as `asks` allows and writes as `writes` allows. -/
def Within (asks : A → Prop) (writes : σ → σ → Prop) : Program σ A R α → σ → Prop
  | done _, _ => True
  | fail _, _ => True
  | read next, s => (next s).Within asks writes s
  | write s' next, s => writes s s' ∧ next.Within asks writes s'
  | ask q next, _ => asks q ∧ ∀ r s, (next r).Within asks writes s

/-- Whatever state it finds, the program asks and writes no more than is allowed. -/
def Confined (asks : A → Prop) (writes : σ → σ → Prop) (p : Program σ A R α) : Prop :=
  ∀ s, p.Within asks writes s

section

variable {p : Program σ A R α} {f : α → Program σ A R β} {s : σ}

theorem Within.bind (hp : p.Within asks writes s) (hf : ∀ value, (f value).Confined asks writes) :
    (p.bind f).Within asks writes s := by
  induction p generalizing s with
  | done value => exact hf value s
  | fail fault => trivial
  | read next ih => exact ih s hp
  | write s' next ih => exact ⟨hp.1, ih hp.2⟩
  | ask q next ih => exact ⟨hp.1, fun r s' => ih r (hp.2 r s')⟩

theorem Within.attempt (hp : p.Within asks writes s) : p.attempt.Within asks writes s := by
  induction p generalizing s with
  | done value => trivial
  | fail fault => trivial
  | read next ih => exact ih s hp
  | write s' next ih => exact ⟨hp.1, ih hp.2⟩
  | ask q next ih => exact ⟨hp.1, fun r s' => ih r (hp.2 r s')⟩

theorem Within.mono (hp : p.Within asks writes s) (hasks : ∀ q, asks q → asks' q)
    (hwrites : ∀ s s', writes s s' → writes' s s') : p.Within asks' writes' s := by
  induction p generalizing s with
  | done value => trivial
  | fail fault => trivial
  | read next ih => exact ih s hp
  | write s' next ih => exact ⟨hwrites s s' hp.1, ih hp.2⟩
  | ask q next ih => exact ⟨hasks q hp.1, fun r s' => ih r (hp.2 r s')⟩

variable {env : Responses σ A R W} {x y : W × σ} {calls : List A} {result : Result α}

theorem Within.asked (hp : p.Within asks writes x.2) : ∀ q ∈ p.asked env x, asks q := by
  induction p generalizing x with
  | done value => simp [Program.asked]
  | fail fault => simp [Program.asked]
  | read next ih => exact ih x.2 hp
  | write s' next ih => exact ih (x := (x.1, s')) hp.2
  | ask q next ih =>
    intro q' hq'
    rcases List.mem_cons.mp hq' with rfl | hrest
    · exact hp.1
    · exact ih _ (hp.2 _ _) q' hrest

theorem Within.holds {I : W × σ → Prop} (hp : p.Within asks writes x.2)
    (hwrites : ∀ w s s', writes s s' → I (w, s) → I (w, s'))
    (henv : ∀ q x, asks q → I x → I (env q x).2) (hx : I x) : I (p.run env x).2 := by
  induction p generalizing x with
  | done value => exact hx
  | fail fault => exact hx
  | read next ih => exact ih x.2 hp hx
  | write s' next ih => exact ih (x := (x.1, s')) hp.2 (hwrites x.1 x.2 s' hp.1 hx)
  | ask q next ih => exact ih _ (hp.2 _ _) (henv q x hp.1 hx)

theorem Confined.asked (hp : p.Confined asks writes) (hruns : p.Runs env x calls result y) :
    ∀ q ∈ calls, asks q := by
  rw [← hruns.asked]
  exact (hp x.2).asked

/-- What neither a change nor an answer breaks still holds after a run. -/
theorem Confined.holds {I : W × σ → Prop} (hp : p.Confined asks writes)
    (hruns : p.Runs env x calls result y) (hwrites : ∀ w s s', writes s s' → I (w, s) → I (w, s'))
    (henv : ∀ q x, asks q → I x → I (env q x).2) (hx : I x) : I y := by
  have hend := (hp x.2).holds hwrites henv hx
  rwa [hruns.run] at hend

/-- A run that is confined to what does not matter leaves no note. -/
theorem Confined.reports {matter : Note A R → Bool} (hp : p.Confined asks writes)
    (haside : ∀ note : Note A R, asks note.1 → matter note = false) :
    p.Reports env matter fun noted _ => noted = [] := by
  intro x
  refine ⟨_, _, _, ⟨rfl, rfl⟩, List.filter_eq_nil_iff.mpr fun note hnote => ?_⟩
  have hasked : note.1 ∈ p.asked env x := by
    rw [asked_eq_map_notes]
    exact List.mem_map_of_mem hnote
  simp [haside note ((hp x.2).asked _ hasked)]

end

/-! ## Laws -/

variable {p q : Program σ A R α} {f : α → Program σ A R β}

theorem Confined.mono (hp : p.Confined asks writes) (hasks : ∀ q, asks q → asks' q)
    (hwrites : ∀ s s', writes s s' → writes' s s') : p.Confined asks' writes' :=
  fun s => (hp s).mono hasks hwrites

@[simp] theorem confined_done (value : α) : (done value : Program σ A R α).Confined asks writes :=
  fun _ => trivial

@[simp] theorem confined_fail (fault : Fault) :
    (fail fault : Program σ A R α).Confined asks writes :=
  fun _ => trivial

@[simp] theorem confined_ofResult (result : Result α) :
    (ofResult result : Program σ A R α).Confined asks writes := by
  cases result with
  | ok value => exact confined_done value
  | error fault => exact confined_fail fault

theorem confined_read {next : σ → Program σ A R α} (h : ∀ s, (next s).Confined asks writes) :
    (read next).Confined asks writes :=
  fun s => h s s

theorem confined_modify {change : σ → σ} (h : ∀ s, writes s (change s)) :
    (modify change : Program σ A R Unit).Confined asks writes :=
  fun s => ⟨h s, trivial⟩

theorem confined_update {change : σ → α × σ} (h : ∀ s, writes s (change s).2) :
    (update change : Program σ A R α).Confined asks writes :=
  fun s => ⟨h s, trivial⟩

theorem confined_ask {q : A} {next : R q → Program σ A R α} (hq : asks q)
    (h : ∀ r, (next r).Confined asks writes) : (ask q next).Confined asks writes :=
  fun _ => ⟨hq, fun r s => h r s⟩

theorem Confined.bind (hp : p.Confined asks writes) (hf : ∀ value, (f value).Confined asks writes) :
    (p.bind f).Confined asks writes :=
  fun s => (hp s).bind hf

theorem Confined.attempt (hp : p.Confined asks writes) : p.attempt.Confined asks writes :=
  fun s => (hp s).attempt

theorem Confined.rescueIf (hp : p.Confined asks writes) {accepts : Fault → Bool}
    {recover : Fault → Program σ A R α} (h : ∀ fault, (recover fault).Confined asks writes) :
    (p.rescueIf accepts recover).Confined asks writes := by
  refine hp.attempt.bind fun result => ?_
  cases result with
  | ok value => exact confined_done value
  | error fault =>
    dsimp only
    split
    · exact h fault
    · exact confined_fail fault

theorem Confined.ignore {p : Program σ A R Unit} (hp : p.Confined asks writes) :
    p.ignore.Confined asks writes :=
  hp.rescueIf fun _ => confined_done ()

theorem Confined.ensure (hp : p.Confined asks writes) {last : Program σ A R Unit}
    (hlast : last.Confined asks writes) : (p.ensure last).Confined asks writes :=
  hp.attempt.bind fun result => hlast.bind fun _ => confined_ofResult result

theorem confined_ite {c : Prop} [Decidable c] (hp : p.Confined asks writes)
    (hq : q.Confined asks writes) : (if c then p else q).Confined asks writes := by
  split
  · exact hp
  · exact hq

end Pageflow.Program

/-! ## At every question

What holds of a program at every question it may come to, together with all that may follow on
the answer. In an ensemble it holds of the questions that stand open. -/
namespace Pageflow

variable {σ A : Type} {R : A → Type} {W α : Type}

/-- A property of a question and of what follows on its answer. -/
abbrev Outlook (σ A : Type) (R : A → Type) (α : Type) : Type :=
  (q : A) → (R q → Program σ A R α) → Prop

/-- From the state `s` on `P` holds wherever the program comes to ask. -/
def Program.Always (P : Outlook σ A R α) : Program σ A R α → σ → Prop
  | done _, _ => True
  | fail _, _ => True
  | read next, s => (next s).Always P s
  | write s next, _ => next.Always P s
  | ask q next, _ => P q next ∧ ∀ r s, (next r).Always P s

def Stage.Always (P : Outlook σ A R α) : Stage σ A R α → Prop
  | .asking q next => P q next ∧ ∀ r s, (next r).Always P s
  | _ => True

variable {P : Outlook σ A R α} {p : Program σ A R α} {s : σ}

theorem Program.Within.always {asks : A → Prop} {writes : σ → σ → Prop}
    (hp : p.Within asks writes s) (hasks : ∀ q next, asks q → P q next) : p.Always P s := by
  induction p generalizing s with
  | done value => trivial
  | fail fault => trivial
  | read next ih => exact ih s hp
  | write s' next ih => exact ih hp.2
  | ask q next ih => exact ⟨hasks q next hp.1, fun r s' => ih r (hp.2 r s')⟩

theorem Program.Segment.always {env : Climate σ A R W} {x y : W × σ} {stage : Stage σ A R α}
    (h : p.Segment env x stage y) (hp : p.Always P x.2) : stage.Always P := by
  induction h with
  | done value x => trivial
  | fail fault x => trivial
  | read _ ih => exact ih hp
  | write _ ih => exact ih hp
  | answered _ _ _ ih => exact ih (hp.2 _ _)
  | asks => exact hp

theorem Reaches.always {env : Climate σ A R W} {task : Nat → Program σ A R α} {x : W × σ}
    {history : List (Move σ W)} {e : Ensemble σ A R W α} {i : Nat}
    (h : Reaches env task x history e) (htask : ∀ s, (task i).Always P s) :
    (e.stage i).Always P := by
  have hturn : ∀ {e : Ensemble σ A R W α} {who : Nat} {stage : Stage σ A R α} {y : W × σ},
      (e.stage i).Always P → (who = i → stage.Always P) →
      ((e.turn who stage y).stage i).Always P := by
    intro e who stage y hold hnew
    by_cases hwho : who = i
    · subst hwho
      rw [Ensemble.turn_stage_self]
      exact hnew rfl
    · rwa [Ensemble.turn_stage_of_ne (Ne.symm hwho)]
  induction h with
  | start => trivial
  | begin who _ _ _ hsegment ih =>
    refine hturn ih fun hwho => ?_
    subst hwho
    exact hsegment.always (htask _)
  | resume who _ hasking _ hsegment ih =>
    refine hturn ih fun hwho => ?_
    subst hwho
    rw [hasking] at ih
    exact hsegment.always (ih.2 _ _)
  | happen _ _ ih => exact ih

end Pageflow
