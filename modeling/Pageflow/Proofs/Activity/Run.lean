import Pageflow.Activity.Basic

/-! Running one program in given surroundings. The surroundings answer every
question, may keep a world of their own, and may change the shared state while
the program waits. A law about every behaviour of a page quantifies over them. -/
namespace Pageflow

/-- How questions are answered: the answer, and what the world and the shared
state have become by then. -/
abbrev Responses (σ A : Type) (R : A → Type) (W : Type) : Type :=
  (q : A) → W × σ → R q × (W × σ)

namespace Program

variable {σ A : Type} {R : A → Type} {W α β : Type}

def run (env : Responses σ A R W) : Program σ A R α → W × σ → Result α × (W × σ)
  | done value, x => (.ok value, x)
  | fail fault, x => (.error fault, x)
  | read next, x => (next x.2).run env x
  | write s next, x => next.run env (x.1, s)
  | ask q next, x => (next (env q x).1).run env (env q x).2

@[simp] theorem pure_eq_done (value : α) : (pure value : Program σ A R α) = done value := rfl

@[simp] theorem bind_eq_bind (p : Program σ A R α) (f : α → Program σ A R β) :
    p >>= f = p.bind f := rfl

variable {env : Responses σ A R W}

@[simp] theorem run_done (value : α) (x : W × σ) :
    (done value : Program σ A R α).run env x = (.ok value, x) := rfl

theorem run_ask {q : A} {r : R q} {x y : W × σ} (next : R q → Program σ A R α)
    (h : env q x = (r, y)) : (ask q next).run env x = (next r).run env y := by
  simp only [run, h]

@[simp] theorem run_ofResult (result : Result α) (x : W × σ) :
    (ofResult result : Program σ A R α).run env x = (result, x) := by
  cases result with
  | ok value => rfl
  | error fault => rfl

theorem run_bind (p : Program σ A R α) (f : α → Program σ A R β) (x : W × σ) :
    (p.bind f).run env x =
      match p.run env x with
      | (.ok value, y) => (f value).run env y
      | (.error fault, y) => (.error fault, y) := by
  induction p generalizing x with
  | done value => rfl
  | fail fault => rfl
  | read next ih => exact ih x.2 x
  | write s next ih => exact ih (x.1, s)
  | ask q next ih => exact ih (env q x).1 (env q x).2

theorem run_bind_ok {p : Program σ A R α} {x y : W × σ} {value : α}
    (h : p.run env x = (.ok value, y)) (f : α → Program σ A R β) :
    (p.bind f).run env x = (f value).run env y := by
  rw [run_bind, h]

/-- Catching the result never fails and leaves everything else as it was. -/
theorem run_attempt (p : Program σ A R α) (x : W × σ) :
    p.attempt.run env x = (.ok (p.run env x).1, (p.run env x).2) := by
  induction p generalizing x with
  | done value => rfl
  | fail fault => rfl
  | read next ih => exact ih x.2 x
  | write s next ih => exact ih (x.1, s)
  | ask q next ih => exact ih (env q x).1 (env q x).2

end Program

/-- The answer where nothing is offered: time stands still, no condition comes to
hold, and every call fails. -/
def Ask.refused : (q : Ask) → Ask.Reply q
  | .elapsed | .wall => 0
  | .now => 0
  | .freshId => ""
  | .sleep _ | .pass => .ok ()
  | .await _ _ => .ok false
  | .page _ _ | .element _ _ | .browser _ => .error (.browser "Not offered")
  | .makeDirectory _ => .ok ()
  | .files _ => .empty
  | .upload _ _ => .error (.upload "Not offered")
  | .post _ _ | .send _ _ | .receive _ _ => .error (.general "Not offered")
  | .print _ => ()
  | .readLine => .ok ()
  | .start _ | .stop _ => ()

end Pageflow
