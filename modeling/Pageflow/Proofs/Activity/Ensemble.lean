import Mathlib.Logic.Function.Basic
import Pageflow.Activity.Program

/-! Many programs over one shared state. A program runs undisturbed up to its next
question; before the answer any other may run, and the surroundings may change
what they and the programs share. Whose turn it is, and what is answered, is not
determined. -/
namespace Pageflow

variable {σ A : Type} {R : A → Type} {W α : Type}

/-- What surroundings may do: when which call may begin, which questions they
answer before anyone else runs, what they may answer with their own world
becoming `w`, and what may happen that is no answer. -/
structure Climate (σ A : Type) (R : A → Type) (W : Type) where
  admits : Nat → W × σ → Prop
  atOnce : A → Prop
  answers : (q : A) → W × σ → R q → W → Prop
  happens : W × σ → W × σ → Prop

inductive Stage (σ A : Type) (R : A → Type) (α : Type) where
  | idle
  | asking (question : A) (next : R question → Program σ A R α)
  | ended (result : Result α)

/-- A program runs until it asks what is not answered at once, or ends. -/
inductive Program.Segment (env : Climate σ A R W) :
    Program σ A R α → W × σ → Stage σ A R α → W × σ → Prop where
  | done (value : α) (x : W × σ) : Segment env (done value) x (.ended (.ok value)) x
  | fail (fault : Fault) (x : W × σ) : Segment env (fail fault) x (.ended (.error fault)) x
  | read {next : σ → Program σ A R α} {x y : W × σ} {stage : Stage σ A R α} :
    Segment env (next x.2) x stage y → Segment env (read next) x stage y
  | write {s : σ} {next : Program σ A R α} {x y : W × σ} {stage : Stage σ A R α} :
    Segment env next (x.1, s) stage y → Segment env (write s next) x stage y
  | answered {q : A} {next : R q → Program σ A R α} {x y : W × σ} {stage : Stage σ A R α}
    {r : R q} {w : W} : env.atOnce q → env.answers q x r w →
    Segment env (next r) (w, x.2) stage y → Segment env (ask q next) x stage y
  | asks {q : A} {next : R q → Program σ A R α} {x : W × σ} :
    ¬ env.atOnce q → Segment env (ask q next) x (.asking q next) x

/-- An answer leads from one stage of a call to the next. -/
def Stage.Follows (env : Climate σ A R W) (stage stage' : Stage σ A R α) : Prop :=
  ∃ q next x r w y, stage = .asking q next ∧ env.answers q x r w ∧
    (next r).Segment env (w, x.2) stage' y

theorem Program.Segment.acc {env : Climate σ A R W} {p : Program σ A R α} {x y : W × σ}
    {stage : Stage σ A R α} (h : p.Segment env x stage y) :
    Acc (fun stage' stage => Stage.Follows env stage stage') stage := by
  induction p generalizing x y stage with
  | done value =>
    cases h
    refine .intro _ ?_
    rintro _ ⟨_, _, _, _, _, _, hasking, -⟩
    cases hasking
  | fail fault =>
    cases h
    refine .intro _ ?_
    rintro _ ⟨_, _, _, _, _, _, hasking, -⟩
    cases hasking
  | read next ih =>
    cases h with
    | read hnext => exact ih _ hnext
  | write s next ih =>
    cases h with
    | write hnext => exact ih hnext
  | ask q next ih =>
    cases h with
    | answered _ _ hnext => exact ih _ hnext
    | asks =>
      refine .intro _ ?_
      rintro _ ⟨_, _, _, _, _, _, hasking, _, hnext⟩
      cases hasking
      exact ih _ hnext

/-- However it is answered, a call ends after finitely many answers. -/
theorem Stage.acc_follows (env : Climate σ A R W) (stage : Stage σ A R α) :
    Acc (fun stage' stage => Stage.Follows env stage stage') stage := by
  refine .intro _ ?_
  rintro _ ⟨_, _, _, _, _, _, -, -, hnext⟩
  exact hnext.acc

/-- Which questions are answered at once, and what. -/
structure Climate.Settles (env : Climate σ A R W) (now : (q : A) → Option (R q)) : Prop where
  waits : ∀ q, now q = none → ¬ env.atOnce q
  answers : ∀ q r, now q = some r → env.atOnce q ∧ ∀ x, env.answers q x r x.1

/-- The segment of a program where it is known what is answered at once. -/
def Program.advance (now : (q : A) → Option (R q)) :
    Program σ A R α → W × σ → Stage σ A R α × (W × σ)
  | done value, x => (.ended (.ok value), x)
  | fail fault, x => (.ended (.error fault), x)
  | read next, x => (next x.2).advance now x
  | write s next, x => next.advance now (x.1, s)
  | ask q next, x => match now q with
    | some r => (next r).advance now x
    | none => (.asking q next, x)

/-- A call that waits has been asked nothing that is answered at once. -/
def Stage.Waits (env : Climate σ A R W) (stage : Stage σ A R α) : Prop :=
  ∀ q next, stage = .asking q next → ¬ env.atOnce q

theorem Program.waits_advance {env : Climate σ A R W} {now : (q : A) → Option (R q)}
    (hwaits : ∀ q, now q = none → ¬ env.atOnce q) (p : Program σ A R α) (x : W × σ) :
    (p.advance now x).1.Waits env := by
  induction p generalizing x with
  | done value => exact nofun
  | fail fault => exact nofun
  | read next ih => exact ih x.2 x
  | write s next ih => exact ih (x.1, s)
  | ask q next ih =>
    unfold Program.advance
    split
    · rename_i r _
      exact ih r x
    · rintro _ _ ⟨⟩
      exact hwaits q ‹_›

/-- Some questions may be answered at once without it being known what, as long as the program
does not come to ask them. -/
theorem Program.segment_advance {env : Climate σ A R W} {now : (q : A) → Option (R q)}
    (hnow : ∀ q r, now q = some r → env.atOnce q ∧ ∀ x, env.answers q x r x.1)
    (p : Program σ A R α) (x : W × σ) (hstops : (p.advance now x).1.Waits env) :
    p.Segment env x (p.advance now x).1 (p.advance now x).2 := by
  induction p generalizing x with
  | done value => exact .done value x
  | fail fault => exact .fail fault x
  | read next ih => exact .read (ih x.2 x hstops)
  | write s next ih => exact .write (ih (x.1, s) hstops)
  | ask q next ih =>
    unfold Program.advance at hstops ⊢
    split at hstops
    · rename_i r hr
      obtain ⟨honce, hanswer⟩ := hnow q r hr
      exact .answered honce (hanswer x) (ih r x hstops)
    · exact .asks (hstops q next rfl)

/-- One turn of a call: from where it was resumed to where it stopped. -/
structure Move (σ W : Type) where
  who : Nat
  before : W × σ
  after : W × σ

/-- The calls, numbered, and what they share. -/
structure Ensemble (σ A : Type) (R : A → Type) (W α : Type) where
  site : W × σ
  stage : Nat → Stage σ A R α

namespace Ensemble

def start (x : W × σ) : Ensemble σ A R W α := ⟨x, fun _ => .idle⟩

def turn (e : Ensemble σ A R W α) (who : Nat) (stage : Stage σ A R α) (x : W × σ) :
    Ensemble σ A R W α :=
  ⟨x, Function.update e.stage who stage⟩

variable {e : Ensemble σ A R W α} {who other : Nat} {stage : Stage σ A R α} {x : W × σ}

@[simp] theorem turn_site : (e.turn who stage x).site = x := rfl

@[simp] theorem turn_stage_self : (e.turn who stage x).stage who = stage :=
  Function.update_self ..

theorem turn_stage_of_ne (h : other ≠ who) : (e.turn who stage x).stage other = e.stage other :=
  Function.update_of_ne h ..

/-- A call begins, where it is known what is answered at once. -/
def call (e : Ensemble σ A R W α) (now : (q : A) → Option (R q)) (who : Nat)
    (p : Program σ A R α) : Ensemble σ A R W α :=
  e.turn who (p.advance now e.site).1 (p.advance now e.site).2

/-- A call is answered, where it is known what is answered at once. -/
def reply (e : Ensemble σ A R W α) (now : (q : A) → Option (R q)) (who : Nat)
    (answer : (q : A) → R q) (w : W) : Ensemble σ A R W α :=
  match e.stage who with
  | .asking q next => e.turn who ((next (answer q)).advance now (w, e.site.2)).1
    ((next (answer q)).advance now (w, e.site.2)).2
  | _ => e

/-- A call is answered some times, as long as it asks. -/
def replies (now : (q : A) → Option (R q)) (who : Nat) (answer : (q : A) → R q) :
    Nat → Ensemble σ A R W α → Ensemble σ A R W α
  | 0, e => e
  | n + 1, e => (e.reply now who answer e.site.1).replies now who answer n

theorem replies_stage_of_ne {now : (q : A) → Option (R q)} {answer : (q : A) → R q}
    (h : other ≠ who) (times : Nat) (e : Ensemble σ A R W α) :
    (e.replies now who answer times).stage other = e.stage other := by
  induction times generalizing e with
  | zero => rfl
  | succ times ih =>
    unfold replies
    rw [ih]
    unfold reply
    split
    · exact turn_stage_of_ne h
    · rfl

def result? (e : Ensemble σ A R W α) (who : Nat) : Option (Result α) :=
  match e.stage who with
  | .ended result => some result
  | _ => none

theorem stage_eq_ended {result : Result α} (h : e.result? who = some result) :
    e.stage who = .ended result := by
  unfold result? at h
  split at h
  · cases h
    assumption
  · cases h

end Ensemble

/-- The ensembles that come about when call `i` runs `task i`, with the turns taken
so far, the first one first. -/
inductive Reaches (env : Climate σ A R W) (task : Nat → Program σ A R α) (x : W × σ) :
    List (Move σ W) → Ensemble σ A R W α → Prop where
  | start : Reaches env task x [] (.start x)
  | begin {history : List (Move σ W)} {e : Ensemble σ A R W α} {stage : Stage σ A R α}
    {y : W × σ} (who : Nat) : Reaches env task x history e → e.stage who = .idle →
    env.admits who e.site → (task who).Segment env e.site stage y →
    Reaches env task x (history ++ [⟨who, e.site, y⟩]) (e.turn who stage y)
  | resume {history : List (Move σ W)} {e : Ensemble σ A R W α} {stage : Stage σ A R α}
    {y : W × σ} (who : Nat) {q : A} {next : R q → Program σ A R α} {r : R q} {w : W} :
    Reaches env task x history e → e.stage who = .asking q next →
    env.answers q e.site r w → (next r).Segment env (w, e.site.2) stage y →
    Reaches env task x (history ++ [⟨who, e.site, y⟩]) (e.turn who stage y)
  | happen {history : List (Move σ W)} {e : Ensemble σ A R W α} {y : W × σ} :
    Reaches env task x history e → env.happens e.site y →
    Reaches env task x history ⟨y, e.stage⟩

section

variable {env : Climate σ A R W} {task : Nat → Program σ A R α} {x : W × σ}
  {history : List (Move σ W)} {e : Ensemble σ A R W α}

theorem Reaches.call_of_waits {now : (q : A) → Option (R q)}
    (hnow : ∀ q r, now q = some r → env.atOnce q ∧ ∀ x, env.answers q x r x.1)
    (h : Reaches env task x history e) (who : Nat) (hidle : e.stage who = .idle)
    (hadmits : env.admits who e.site)
    (hstops : ((e.call now who (task who)).stage who).Waits env) : Reaches env task x
      (history ++ [⟨who, e.site, (e.call now who (task who)).site⟩])
      (e.call now who (task who)) := by
  have hstage : (e.call now who (task who)).stage who = ((task who).advance now e.site).1 :=
    Ensemble.turn_stage_self
  rw [hstage] at hstops
  exact h.begin who hidle hadmits ((task who).segment_advance hnow e.site hstops)

theorem Reaches.call {now : (q : A) → Option (R q)} (hnow : env.Settles now)
    (h : Reaches env task x history e) (who : Nat) (hidle : e.stage who = .idle)
    (hadmits : env.admits who e.site) : Reaches env task x
      (history ++ [⟨who, e.site, (e.call now who (task who)).site⟩])
      (e.call now who (task who)) := by
  refine h.call_of_waits hnow.answers who hidle hadmits ?_
  unfold Ensemble.call
  rw [Ensemble.turn_stage_self]
  exact (task who).waits_advance hnow.waits e.site

theorem Ensemble.reply_of_asking {now : (q : A) → Option (R q)} {who : Nat} {q : A}
    {next : R q → Program σ A R α} (hasking : e.stage who = .asking q next)
    (answer : (q : A) → R q) (w : W) : e.reply now who answer w = e.turn who
      ((next (answer q)).advance now (w, e.site.2)).1
      ((next (answer q)).advance now (w, e.site.2)).2 := by
  unfold Ensemble.reply
  rw [hasking]

theorem Ensemble.reply_of_not_asking {now : (q : A) → Option (R q)} {who : Nat}
    (h : ∀ q next, e.stage who ≠ .asking q next) (answer : (q : A) → R q) (w : W) :
    e.reply now who answer w = e := by
  unfold Ensemble.reply
  split
  · exact absurd ‹_› (h _ _)
  · rfl

theorem Reaches.reply_of_waits {now : (q : A) → Option (R q)}
    (hnow : ∀ q r, now q = some r → env.atOnce q ∧ ∀ x, env.answers q x r x.1)
    (h : Reaches env task x history e) (who : Nat) {q : A} {next : R q → Program σ A R α}
    (hasking : e.stage who = .asking q next) (answer : (q : A) → R q) (w : W)
    (hanswer : env.answers q e.site (answer q) w)
    (hstops : ((e.reply now who answer w).stage who).Waits env) :
    Reaches env task x (history ++ [⟨who, e.site, (e.reply now who answer w).site⟩])
      (e.reply now who answer w) := by
  rw [Ensemble.reply_of_asking hasking] at hstops ⊢
  rw [Ensemble.turn_stage_self] at hstops
  exact h.resume who hasking hanswer ((next (answer q)).segment_advance hnow _ hstops)

theorem Reaches.reply {now : (q : A) → Option (R q)} (hnow : env.Settles now)
    (h : Reaches env task x history e) (who : Nat) {q : A} {next : R q → Program σ A R α}
    (hasking : e.stage who = .asking q next) (answer : (q : A) → R q) (w : W)
    (hanswer : env.answers q e.site (answer q) w) :
    Reaches env task x (history ++ [⟨who, e.site, (e.reply now who answer w).site⟩])
      (e.reply now who answer w) := by
  refine h.reply_of_waits hnow.answers who hasking answer w hanswer ?_
  rw [Ensemble.reply_of_asking hasking, Ensemble.turn_stage_self]
  exact (next (answer q)).waits_advance hnow.waits _

theorem Reaches.replies_of_waits {now : (q : A) → Option (R q)}
    (hnow : ∀ q r, now q = some r → env.atOnce q ∧ ∀ x, env.answers q x r x.1)
    (answer : (q : A) → R q)
    (hanswer : ∀ q y, ¬ env.atOnce q → env.answers q y (answer q) y.1) (who times : Nat)
    (hstops : ∀ n ≤ times, ((e.replies now who answer n).stage who).Waits env)
    (h : Reaches env task x history e) :
    ∃ history', Reaches env task x history' (e.replies now who answer times) := by
  induction times generalizing e history with
  | zero => exact ⟨history, h⟩
  | succ times ih =>
    have hlater : ∀ n ≤ times,
        (((e.reply now who answer e.site.1).replies now who answer n).stage who).Waits env :=
      fun n hn => hstops (n + 1) (Nat.succ_le_succ hn)
    by_cases hasks : ∃ q next, e.stage who = .asking q next
    · obtain ⟨q, next, hstage⟩ := hasks
      exact ih hlater (h.reply_of_waits hnow who hstage answer e.site.1
        (hanswer q _ (hstops 0 (Nat.zero_le _) q next hstage)) (hlater 0 (Nat.zero_le _)))
    · have hsame : e.reply now who answer e.site.1 = e :=
        Ensemble.reply_of_not_asking (fun q next heq => hasks ⟨q, next, heq⟩) answer e.site.1
      unfold Ensemble.replies
      rw [hsame] at hlater ⊢
      exact ih hlater h

theorem Reaches.replies {now : (q : A) → Option (R q)} (hnow : env.Settles now)
    (answer : (q : A) → R q) (hanswer : ∀ q y, env.answers q y (answer q) y.1) (who times : Nat)
    (h : Reaches env task x history e) :
    ∃ history', Reaches env task x history' (e.replies now who answer times) := by
  induction times generalizing e history with
  | zero => exact ⟨history, h⟩
  | succ times ih =>
    by_cases hasks : ∃ q next, e.stage who = .asking q next
    · obtain ⟨q, next, hstage⟩ := hasks
      exact ih (h.reply hnow who hstage answer e.site.1 (hanswer q _))
    · unfold Ensemble.replies
      rw [Ensemble.reply_of_not_asking (fun q next heq => hasks ⟨q, next, heq⟩)]
      exact ih h

end

end Pageflow
