import Pageflow.Console.Perform
import Pageflow.Rehearsal.Scene.Files
import Pageflow.Rehearsal.Scene.Session
/-!
Scenes at the terminal: one command line, with the files that it finds, the browser that it drives
and the lines that are entered.
-/
namespace Pageflow.Rehearsal.Scene

open Browser Pageflow.Console

/-- The directory of the scene, as documents name it. -/
def rootToken : String := "\x7bdir\x7d"

/-- A text with the directory of the scene in place of its name. -/
def withRoot (s : String) : String := Text.replace s rootToken rootPath.toString

/-- The variables that scenes begin with: all directories lie below that of the scene. -/
def baseVariables : List (String × String) :=
  let below (name : String) : String := (rootPath.child name).toString
  [("PAGERUN_PROJECT_ROOT", "\x7bproject\x7d"), ("PAGERUN_STORAGE__LOCAL_DIR", below "blobs"),
    ("PAGERUN_BROWSER__PROFILE_DIR", below "profile"),
    ("PAGERUN_RUNNER__WORKFLOW_DIR", below "workflows")]

/-- The variables of a scene. -/
def variablesOf (input : Json) : Settings.Environment :=
  Json.table (baseVariables ++
    (input.getD "env").textTable.map fun (name, value) => (name, withRoot value))

/-- The world around a command. -/
def consoleWorld (input : Json) (settings : Result Settings) : World :=
  let storage := match settings.bind fun s => Blob.Store.ofSettings s.storage with
    | .ok store => Storage.store store
    | .error _ => .memory
  let world := browserWorld input (input.itemsAt "pages")
  { world with
    storage, files := withFiles Content.bytes world.files rootPath (input.getD "files")
    entries := (input.itemsAt "stdin").map (·.intItem 0) }

/-- The work that commands begin: asking at the terminal. -/
def consoleWork (settings : Result Settings) : Job → Activity (Turn Json)
  | .prompt taskId =>
    match settings with
    | .ok s => Prompt.turn (.ofSettings s.challenge) taskId Json.null
    | .error _ => noWork (.prompt taskId)
  | job => noWork job

/-- The lines on the terminal, trimmed on the right, without empty ones at the end. -/
def terminalLines (p : Stage) : List String :=
  let lines := (p.world.printed.flatMap (Text.split '\n')).map fun line =>
    Text.trimEndBy Text.isBlank line.toList
  ((lines.reverse.dropWhile (·.isEmpty)).reverse).map String.ofList

/-- The output of a command as a document reports it. -/
def outputFields (input : Json) (p : Stage) : Fields :=
  let lines := terminalLines p
  if input.truthAt "json_output" then
    [("json", inMillis ((Json.read? (Text.join "\n" lines)).getD .null))]
  else
    let shown := match input.natAt? "first_lines" with
      | some n => lines.take n
      | none => lines
    [("lines", .arr (shown.map .str))]

/-- What a command did with the browser, if it launched one. -/
def browserFields (p : Stage) : Fields :=
  if p.world.log.isEmpty then []
  else [("browser", .arr p.world.log), ("calls", .arr (p.pageRefs.map p.calls))]

/-- A command. -/
def performCommand (input : Json) (command : Command) : Fields :=
  let settings := Settings.load (fun _ => []) (variablesOf input) []
  let surroundings : Surroundings := ⟨settings, input.truthAt "tty", false⟩
  let p := stageIn (consoleWorld input settings) (consoleWork settings)
  let (r, p) := p.finish (do return .int (← command.perform surroundings))
  let code := exitCode (r.map fun j => (j.nat?).getD 0)
  ("exit", .int code) ::
    (match r with
      | .ok _ => outputFields input p
      | .error fault => if code = 2 then [] else fault.fields) ++ browserFields p

/-- A command line. -/
def console (input : Json) : Result Fields :=
  let fields : Fields := match Command.ofArguments ((input.getD "args").texts.map withRoot) with
    | .ok command => performCommand input command
    | .error _ => [("exit", .int 2)]
  .ok (withoutRoot "dir" fields)

end Pageflow.Rehearsal.Scene
