import Pageflow.Console.Markup
import Pageflow.Fault.Document
import Pageflow.Settings.Basic
import Pageflow.Workflow.Document
/-!
What the commands tell about workflows, settings and results, as styled texts and as documents.
A table has a title, a header and rows of cells, all of them styled texts; a cell of several lines
makes its row as high.
-/
namespace Pageflow.Console

/-- A column: its header and its cells from top to bottom. -/
structure Column where
  header : String
  cells : List String

/-- A table; its columns hold as many cells as it has rows. -/
structure Table where
  title : String
  columns : List Column

namespace Table

/-- What stands between the cells of a row. -/
def separator : String := " | "

/-- The lines of a row whose cells have been cut into lines; a line that a cell does not have is
empty. -/
def rowLines (cells : List (List String)) : List String :=
  let height := (cells.map List.length).foldl max 1
  (List.range height).map fun i => Text.join separator (cells.map fun lines => lines[i]?.getD "")

/-- What is shown of a cell, in trimmed lines. -/
def cellLines (cell : String) : Result (List String) :=
  (Markup.plain cell).map fun shown => (Text.split '\n' shown).map Text.trim

/-- The cells of a column from its header on, in lines. -/
def columnLines (c : Column) : Result (List (List String)) := (c.header :: c.cells).mapM cellLines

/-- The number of rows. -/
def height (t : Table) : Nat := (t.columns.map fun c => c.cells.length).foldl max 0

/-- The lines of a table. -/
def lines (t : Table) : Result (List String) := do
  let columns ← t.columns.mapM columnLines
  let title ← Markup.plain t.title
  let rows := (List.range (t.height + 1)).map fun i =>
    rowLines (columns.map fun cells => cells[i]?.getD [])
  pure (Text.trim title :: rows.flatten)

/-- A table from its header and its rows. -/
def ofRows (title : String) (header : List String) (rows : List (List String)) : Table :=
  ⟨title, header.mapIdx fun i name => ⟨name, rows.map fun row => row[i]?.getD ""⟩⟩

end Table

/-- A text, or another one if it is empty. -/
def orElse (s default : String) : String := if s.isEmpty then default else s

/-- A count with a noun in the singular or plural. -/
def counted (n : Nat) (noun : String) : String :=
  toString n ++ " " ++ noun ++ (if n = 1 then "" else "s")

def segmentText : Schema.Segment → String
  | .key name => name
  | .index i => toString i

/-- The way to a part of a document. -/
def wayText (mark : String) (way : List Schema.Segment) : String :=
  Text.join mark (way.map segmentText)

/-- A fault as it is told; `subject` is what did not fit its schema. -/
def faultText (subject : String) : Fault → String
  | .invalid issues =>
    Text.join "\n" ((counted issues.length "validation error" ++ " for " ++ subject) ::
      issues.map fun i => wayText "." i.location ++ "\n  " ++ i.cause.message)
  | fault => fault.message

/-- The lines about the issues of a document. -/
def issueLines (issues : List Schema.Issue) : List String :=
  issues.map fun i => "  " ++ wayText " → " i.location ++ ": " ++ i.cause.message

/-! ### Workflows -/

/-- What a step is about: the address that it opens or the element that it works on. -/
def stepTarget : Action → String
  | .navigate url _ => url
  | .waitForSelector selector | .click selector | .screenshot selector _ _ | .scrollPage selector
  | .extractData selector _ => selector
  | _ => ""

/-- The line about the step with a number. -/
def stepLine (number : Nat) (s : Step) : String :=
  let target := stepTarget s.action
  "  " ++ Text.padLeft 2 (toString number) ++ ". [yellow]" ++ Text.padRight 18 s.action.name ++
    "[/yellow]" ++ (if target.isEmpty then "" else " " ++ target) ++
    (if s.description.isEmpty then "" else " — " ++ s.description)

/-- The texts about one workflow. -/
def workflowTexts (w : Workflow) : List String :=
  let input := match w.requiredInput with
    | some input =>
      let line := "  Input:       " ++ input.key ++ " " ++ input.label
      [String.ofList (Text.trimEndBy Text.isBlank line.toList)]
    | none => []
  ["[bold cyan]" ++ w.id ++ "[/bold cyan]  v" ++ w.version,
    "  Name:        " ++ orElse w.name "(none)",
    "  Description: " ++ orElse w.description "(none)",
    "  Enabled:     " ++ (if w.enabled then "Yes" else "No")] ++ input ++
    (if w.tags.isEmpty then [] else ["  Tags:        " ++ Text.join ", " w.tags]) ++
    ["\n[bold]Steps (" ++ toString w.steps.length ++ "):[/bold]"] ++
    w.steps.mapIdx fun i s => stepLine (i + 1) s

/-- How much of a name a list of workflows shows. -/
def nameWidth : Nat := 40

/-- The row about a workflow in a list. -/
def workflowRow (w : Workflow) : List String :=
  [w.id, Text.take nameWidth w.name, toString w.steps.length,
    ((w.requiredInput.map (·.key)).getD ""),
    if w.enabled then "[green]✓[/green]" else "[red]✗[/red]", Text.join ", " w.tags]

/-- The list of the workflows of a directory. -/
def workflowTable (directory : String) (workflows : List Workflow) : Table :=
  Table.ofRows ("Workflows (" ++ directory ++ ")")
    ["ID", "Name", "Steps", "Input", "Enabled", "Tags"] (workflows.map workflowRow)

/-- The entry about a workflow in a list that is a document. -/
def workflowEntry (w : Workflow) : Json :=
  .obj [("workflow_id", w.id), ("name", w.name), ("steps", .int w.steps.length),
    ("enabled", w.enabled), ("version", w.version),
    ("required_input", Json.ofOption (fun input => .str input.key) w.requiredInput),
    ("tags", .arr (w.tags.map .str))]

/-! ### Results -/

/-- The text about how a run ended. -/
def endText (e : Execution) : String :=
  "\n" ++ (if e.completed then "[green]✓[/green]" else "[red]✗[/red]") ++ " Task " ++ e.taskId ++
    ": " ++ e.status ++ " in " ++ Decimal.fixed 1 e.duration ++ "s"

/-- The table of what a run extracted. -/
def dataTable (e : Execution) : Table :=
  Table.ofRows "Extracted data" ["Name", "Value"] (e.data.map fun (name, value) => [name, value])

def screenshotText (s : Screenshot) : String := "  Screenshot " ++ s.name ++ ": " ++ s.url

/-- The text about why a run failed; steps are counted from one. -/
def failureText (f : Failure) : String :=
  let step := match f.stepIndex with
    | some i => " at step " ++ toString (i + 1)
    | none => ""
  "  [red]Error[/red] (" ++ f.kind.name ++ ", " ++ f.phase ++ step ++ "): " ++ f.message

/-! ### Settings -/

/-- The texts about settings that are valid. -/
def settingsTexts (s : Settings) : List String :=
  ["[green]✓[/green] Settings are valid.",
    "  Environment:  " ++ s.env,
    "  Profile dir:  " ++ s.browser.profileDir,
    "  Workflows:    " ++ s.runner.workflowDir,
    "  Blob backend: " ++ s.storage.backend]

end Pageflow.Console
