import Pageflow.Files.Tree
import Pageflow.Text.Utf8
import Pageflow.Json.Reader
import Pageflow.Schema.Outcome
import Pageflow.Workflow.Decode
/-!
Workflow documents on disk: one per file, and all of a directory in the order of their names.
-/
namespace Pageflow

/-- The fault that a failure to read JSON is reported as. -/
def Json.Failure.fault (source : List Char) (f : Json.Failure) : Fault :=
  match f.flaw with
  | .digitLimit _ => .foreign "ValueError" f.flaw.text
  | .depth _ => .foreign "RecursionError" f.flaw.text
  | _ => .foreign "JSONDecodeError" (f.message source)

/-- A JSON text as a value. -/
def Json.readText (source : List Char) : Result Json :=
  match Json.read source with
  | .ok j => .ok j
  | .error f => .error (f.fault source)

/-- The text of a file given by its bytes, with its line ends unified. -/
def fileText (bytes : List Nat) : Result (List Char) :=
  match Utf8.decode bytes with
  | .ok cs => .ok (Text.unifyLineEnds cs)
  | .error f => .error (.foreign "UnicodeDecodeError" f.message)

/-- The workflow whose document is in a file. -/
def Workflow.load (files : FileTree (List Nat)) (p : Path) : Result Workflow := do
  let source ← fileText (← files.read p)
  (Workflow.decode (← Json.readText source)).toResult

/-- The document files of a directory, by name. -/
def documentPaths (files : FileTree (List Nat)) (directory : Path) : List Path :=
  (((files.list directory).map (·.1)).filter fun p => Text.endsWith p.name ".json").mergeSort
    fun p q => decide (p.name ≤ q.name)

/-- The workflows of a directory; files that hold none are passed over. -/
def Workflow.loadAll (files : FileTree (List Nat)) (directory : Path) : List Workflow :=
  if files.isDirectory directory then
    (documentPaths files directory).filterMap fun p => (Workflow.load files p).toOption
  else []

end Pageflow
