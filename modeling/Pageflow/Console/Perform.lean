import Pageflow.Blob.Store
import Pageflow.Console.Command
import Pageflow.Console.Params
import Pageflow.Console.Prompt
import Pageflow.Console.Report
import Pageflow.Service.Basic
/-!
Carrying out commands. A command is an activity that yields its exit code; what ends one early
gives an exit code too.
-/
namespace Pageflow.Console

/-- What a command finds around it. -/
structure Surroundings where
  /-- The settings, or why they cannot be read. -/
  settings : Result Settings
  /-- Whether somebody sits at the terminal. -/
  attended : Bool
  /-- Whether a driver has to be started before a browser can be launched. -/
  driven : Bool := true

/-- The name of the program and its version. -/
def versionText : String := "pagerun 0.1.0"

/-- How the program is called. -/
def helpTexts : List String :=
  ["Usage: pagerun \\[--version] \\[--log-level LEVEL] COMMAND",
    "  run WORKFLOW_FILE        Execute one workflow locally and print its result.",
    "  login \\[URL]              Open a visible browser on the profile so you can sign in.",
    "  workflows list           List all workflows in the workflow directory.",
    "  workflows show ID        Display the steps of a single workflow.",
    "  workflows validate PATH  Validate a workflow file against the schema.",
    "  settings show            Display the currently resolved settings.",
    "  settings validate        Validate settings and report any issues."]

/-- The exit code of a command that ended well or failed, was called wrongly, or met a fault. -/
def exitCode : Result Nat → Nat
  | .ok code => code
  | .error fault => if fault.name = "BadParameter" then 2 else 1

/-- The files at and below a path. -/
def filesAt (path : Path) : Activity (FileTree (List Nat)) := .ask (.files path.toString) .done

/-- Shows a table, unless a part of it cannot be shown. -/
def sayTable (t : Table) : Activity Unit := do
  let lines ← Program.ofResult t.lines
  sayPlain (Text.join "\n" lines)

/-- Shows a document. -/
def sayDocument (j : Json) : Activity Unit := sayPlain (j.pretty 0)

/-- A fault of a document that is no JSON. -/
def isSyntaxFault (f : Fault) : Bool := f.name = "JSONDecodeError"

/-- The workflow of a file as far as it can be read, or `none` if there is no such file, which is
said. -/
def readFile (path : Path) : Activity (Option (Result Workflow)) := do
  let files ← filesAt path
  if ← Program.ofResult (files.holds path) then return some (Workflow.load files path)
  say ("[red]File not found:[/red] " ++ path.toString)
  return none

/-- Tells whether a file holds a workflow. -/
def validateWorkflow (path : Path) : Activity Nat := do
  match ← readFile path with
  | none => return 1
  | some (.ok w) =>
    say ("[green]✓[/green] Valid workflow: " ++ w.id ++ " (" ++ toString w.steps.length ++ " steps)")
    return 0
  | some (.error (.invalid issues)) =>
    say "[red]✗ Validation errors:[/red]"
    sayAll (issueLines issues)
    return 1
  | some (.error fault) =>
    if isSyntaxFault fault then
      say ("[red]✗ Invalid JSON:[/red] " ++ fault.message)
      return 1
    else .fail fault

/-- The directory that is named, or else the one of the settings. -/
def workflowDirectory (s : Surroundings) (named : Option String) : Activity Path :=
  match named with
  | some directory => pure (Path.ofString directory)
  | none => do return Path.ofString (← Program.ofResult s.settings).runner.workflowDir

/-- Lists the workflows of a directory. -/
def listWorkflows (s : Surroundings) (named : Option String) (asJson : Bool) : Activity Nat := do
  let directory ← workflowDirectory s named
  let workflows := Workflow.loadAll (← filesAt directory) directory
  if workflows.isEmpty then
    say ("No workflows found in " ++ directory.toString)
  else if asJson then
    sayDocument (.arr (workflows.map workflowEntry))
  else
    sayTable (workflowTable directory.toString workflows)
    say ("\n[bold]" ++ toString workflows.length ++ "[/bold] workflow(s) loaded")
  return 0

/-- Shows one workflow of a directory. -/
def showWorkflow (s : Surroundings) (id : String) (named : Option String) (asJson : Bool) :
    Activity Nat := do
  let directory ← workflowDirectory s named
  let workflows := Workflow.loadAll (← filesAt directory) directory
  match workflows.find? (·.id = id) with
  | some w =>
    if asJson then sayDocument (w.write .document) else sayAll (workflowTexts w)
    return 0
  | none =>
    say ("[red]Workflow not found:[/red] " ++ id)
    if !workflows.isEmpty then
      say ("  Available: " ++ Text.join ", " (workflows.map (·.id)))
    return 1

/-- Shows the settings. -/
def showSettings (s : Surroundings) : Activity Nat := do
  sayDocument (← Program.ofResult s.settings).toJson
  return 0

/-- Tells whether the settings are valid. -/
def validateSettings (s : Surroundings) : Activity Nat :=
  Program.rescue (do
      sayAll (settingsTexts (← Program.ofResult s.settings))
      return 0)
    fun fault => do
      say ("[red]✗[/red] Settings validation failed: " ++ faultText "Settings" fault)
      return 1

/-- Tells how a run ended. -/
def tellResult (e : Execution) : Activity Unit := do
  say (endText e)
  if !e.data.isEmpty then
    sayTable (dataTable e)
  sayAll (e.screenshots.map screenshotText)
  sayAll (e.failure.map failureText).toList

/-- Runs a workflow on a service that is shut down afterwards. Somebody at the terminal is asked to
resolve the challenges that it meets. -/
def runAttended (s : Surroundings) (service : Service) (w : Workflow) (context : TaskContext) :
    Activity Execution := do
  if s.attended && service.coordinator.isSome then
    Program.modify fun state =>
      { state with bus := (state.bus.add .terminal (some context.taskId)).2 }
  (service.runWorkflow w context).ensure do
    .ask (.stop (.prompt context.taskId)) .done
    Service.shutdown

/-- Runs a workflow as an order says. -/
def runOrder (s : Surroundings) (order : RunOrder) (w : Workflow) : Activity Nat := do
  let values ← Program.ofResult (params order.pairs)
  let settings ← Program.ofResult s.settings
  let _ ← Program.ofResult (Blob.Store.ofSettings settings.storage)
  let given (flag : Bool) : Option Bool := if flag then some false else none
  let service ← Service.assemble settings (given order.headed) (given order.withoutPauses)
  let service := { service with session := { service.session with driven := s.driven } }
  let request : Request :=
    { input := order.input.map .str, parameters := values.map fun (key, value) => (key, .str value) }
  let context ← Service.bindContext w order.taskId request
  if !order.asJson then
    say ("Running [bold]" ++ w.id ++ "[/bold] (" ++ toString w.steps.length ++ " steps) as task " ++
      context.taskId)
  let e ← runAttended s service w context
  if order.asJson then sayDocument e.toJson else tellResult e
  return if e.completed then 0 else 1

/-- Runs the workflow of a file. -/
def run (s : Surroundings) (order : RunOrder) : Activity Nat := do
  match ← readFile (Path.ofString order.file) with
  | none => return 1
  | some (.ok w) => runOrder s order w
  | some (.error fault) =>
    match fault with
    | .invalid _ =>
      say ("[red]✗ Invalid workflow:[/red] " ++ faultText "Workflow" fault)
      return 1
    | _ =>
      if isSyntaxFault fault then
        say ("[red]✗ Invalid workflow:[/red] " ++ fault.message)
        return 1
      else .fail fault

/-- Opens a visible browser on the profile until a line is entered. -/
def login (s : Surroundings) (url : String) : Activity Nat := do
  let settings ← Program.ofResult s.settings
  let options := { Session.Options.ofSettings settings.browser (some false) with driven := s.driven }
  let page ← Session.acquire options
  Program.ensure (do
      if !url.isEmpty && url ≠ Command.blankPage then
        page.call (.goto url none)
      say ("Profile: " ++ options.profile)
      say "Sign in in the browser window, then press Enter here to save the session and close it."
      waitForEnter)
    (do
      Session.release page
      Session.close)
  say "[green]✓[/green] Session saved."
  return 0

/-- Carries out a command. -/
def Command.perform (s : Surroundings) : Command → Activity Nat
  | .help => do
    sayAll helpTexts
    return 0
  | .version => do
    say versionText
    return 0
  | .run order => Console.run s order
  | .login url => Console.login s url
  | .listWorkflows directory asJson => Console.listWorkflows s directory asJson
  | .showWorkflow id directory asJson => Console.showWorkflow s id directory asJson
  | .validateWorkflow file => Console.validateWorkflow (Path.ofString file)
  | .showSettings => Console.showSettings s
  | .validateSettings => Console.validateSettings s

end Pageflow.Console
