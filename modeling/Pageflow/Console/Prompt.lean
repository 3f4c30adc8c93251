import Pageflow.Console.Markup
import Pageflow.Pause.Coordinator
/-!
Speaking to somebody at the terminal, and asking there to resolve the challenge that a task is
paused at, until the task goes on.
-/
namespace Pageflow.Console

/-- Shows a styled text. -/
def say (text : String) : Activity Unit := do
  let shown ← Program.ofResult (Markup.plain text)
  .ask (.print shown) .done

/-- Shows a text as it is. -/
def sayPlain (text : String) : Activity Unit := .ask (.print text) .done

/-- Shows texts one after the other. -/
def sayAll : List String → Activity Unit
  | [] => pure ()
  | text :: rest => do
    say text
    sayAll rest

/-- Waits until a line is entered. -/
def waitForEnter : Activity Unit := .ask .readLine .ofResult

namespace Prompt

/-- Asks once to resolve the challenge of a task, if it is still paused; tells whether to ask
again. -/
def askOnce (c : Pause.Coordinator) (taskId : String) : Activity Bool := do
  if !(← Program.state).board.tasks.contains taskId then return false
  say ("\n[yellow]⚠ Verification challenge detected.[/yellow] " ++
    "Solve it in the browser window, then press Enter to resume.")
  waitForEnter
  match ← c.resume taskId with
  | none =>
    say "[green]✓[/green] Resumed."
    return false
  | some refusal =>
    say ("[red]Still blocked:[/red] " ++ refusal.name)
    return true

/-- One turn of asking. When the last one is over, the next pause may be asked about. -/
def turn {α : Type} (c : Pause.Coordinator) (taskId : String) (done : α) : Activity (Turn α) := do
  let result ← (askOnce c taskId).attempt
  match result with
  | .ok true => return .again (.prompt taskId)
  | _ =>
    Program.modify fun s => { s with prompting := false }
    let _ ← Program.ofResult result
    return .ended done

end Prompt
end Pageflow.Console
