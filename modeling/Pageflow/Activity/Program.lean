import Pageflow.Fault
/-!
Programs: a sequential activity as a value. It reads and writes a shared state at once and asks its
surroundings for everything else. Whoever runs it gives the answers, so a statement about every
behaviour of the surroundings quantifies over answers.
-/
namespace Pageflow

/-- An activity over the shared state `σ` that asks questions of `A`, each answered as `R` says. -/
inductive Program (σ A : Type) (R : A → Type) (α : Type) where
  | done (value : α)
  | fail (fault : Fault)
  | read (next : σ → Program σ A R α)
  | write (state : σ) (next : Program σ A R α)
  | ask (question : A) (next : R question → Program σ A R α)

namespace Program

variable {σ A : Type} {R : A → Type} {α β : Type}

def bind : Program σ A R α → (α → Program σ A R β) → Program σ A R β
  | done value, f => f value
  | fail fault, _ => fail fault
  | read next, f => read fun s => (next s).bind f
  | write s next, f => write s (next.bind f)
  | ask q next, f => ask q fun r => (next r).bind f

instance : Monad (Program σ A R) where
  pure := done
  bind := bind

/-- The result of a program as a value; the program itself no longer fails. -/
def attempt : Program σ A R α → Program σ A R (Result α)
  | done value => done (.ok value)
  | fail fault => done (.error fault)
  | read next => read fun s => (next s).attempt
  | write s next => write s next.attempt
  | ask q next => ask q fun r => (next r).attempt

/-- A program that ends as a result says. -/
def ofResult : Result α → Program σ A R α
  | .ok value => done value
  | .error fault => fail fault

/-- Recovers from the faults that `accepts` names. -/
def rescueIf (p : Program σ A R α) (accepts : Fault → Bool)
    (recover : Fault → Program σ A R α) : Program σ A R α :=
  p.attempt.bind fun
    | .ok value => done value
    | .error fault => if accepts fault then recover fault else fail fault

/-- Recovers from every fault but a cancellation. -/
def rescue (p : Program σ A R α) (recover : Fault → Program σ A R α) : Program σ A R α :=
  p.rescueIf (fun fault => !fault.isCancelled) recover

/-- Goes on after a program whatever its fault, unless it was cancelled. -/
def ignore (p : Program σ A R Unit) : Program σ A R Unit := p.rescue fun _ => done ()

/-- Runs `last` after a program, however it ends, and ends as the program did. -/
def ensure (p : Program σ A R α) (last : Program σ A R Unit) : Program σ A R α :=
  p.attempt.bind fun result => last.bind fun _ => ofResult result

/-- The shared state. -/
def state : Program σ A R σ := read done

/-- Changes the shared state in one step. -/
def modify (f : σ → σ) : Program σ A R Unit := read fun s => write (f s) (done ())

/-- Changes the shared state in one step and yields a value that the change determines. -/
def update (f : σ → α × σ) : Program σ A R α := read fun s => write (f s).2 (done (f s).1)

theorem bind_done (p : Program σ A R α) : p.bind done = p := by
  induction p with
  | done | fail => rfl
  | read next ih => exact congrArg read (funext ih)
  | write s next ih => exact congrArg (write s) ih
  | ask q next ih => exact congrArg (ask q) (funext ih)

theorem bind_assoc {γ : Type} (p : Program σ A R α) (f : α → Program σ A R β)
    (g : β → Program σ A R γ) : (p.bind f).bind g = p.bind fun a => (f a).bind g := by
  induction p with
  | done | fail => rfl
  | read next ih => exact congrArg read (funext ih)
  | write s next ih => exact congrArg (write s) ih
  | ask q next ih => exact congrArg (ask q) (funext ih)

end Program
end Pageflow
