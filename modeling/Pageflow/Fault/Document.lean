import Pageflow.Json.Writer
import Pageflow.Schema.Outcome
/-!
Faults as documents.
-/
namespace Pageflow

def Schema.Segment.toJson : Schema.Segment → Json
  | .key name => .str name
  | .index i => .int i

def Schema.Issue.toJson (i : Schema.Issue) : Json :=
  .obj [("type", i.cause.name), ("loc", .arr (i.location.map Schema.Segment.toJson)),
    ("msg", i.cause.message)]

namespace Fault

/-- The fields by which a fault is reported: its name, and its issues or its message and kind. -/
def fields (f : Fault) : List (String × Json) :=
  let name := ("error", Json.str f.name)
  match f with
  | .invalid issues => [name, ("errors", .arr (issues.map Schema.Issue.toJson))]
  | .cancelled | .unreadableImage => [name]
  | _ =>
    let kind := match f.ownKind? with
      | some k => [("kind", Json.str k.name)]
      | none => []
    name :: ("message", .str f.message) :: kind

def toJson (f : Fault) : Json := .obj f.fields

/-- The message that arguments stand for. -/
def argumentText : List Json → String
  | [] => ""
  | [j] => j.display
  | js => "(" ++ ", ".intercalate (js.map Json.literal) ++ ")"

/-- The fault of a name, made from arguments. -/
def ofArguments (name : String) (arguments : List Json) : Fault :=
  let message := argumentText arguments
  let text (i : Nat) := (arguments[i]?.map Json.display).getD ""
  let int (i : Nat) := (arguments[i]?.bind Json.int?).getD 0
  match name with
  | "PagerunError" => .general message
  | "SessionLaunchError" => .sessionLaunch message
  | "StaleSessionError" => .staleSession message
  | "NavigationError" => .navigation message
  | "ElementNotFoundError" => .elementNotFound (text 0) (arguments[1]?.bind Json.int?)
  | "NetworkIdleTimeout" => .networkIdle (int 0) (int 1)
  | "CompositingError" => .compositing message
  | "UploadError" => .upload message
  | "ChallengeTimeoutError" => .challengeTimeout (text 0) ((arguments[1]?.bind Json.double?).getD 0)
  | "WorkflowTimeoutError" => .workflowTimeout message
  | "WorkflowNotFoundError" => .workflowNotFound (text 0)
  | "WorkflowDisabledError" => .workflowDisabled (text 0)
  | "BatchLimitError" => .batchLimit (int 0) (int 1)
  | "TimeoutError" => .browserTimeout message
  | "Error" => .browser message
  | other => .foreign other message

/-- A fault from an object with its name and its message. -/
def ofJson (j : Json) : Fault :=
  let text (key : String) := (j.getD key).str?.getD ""
  ofArguments (if (text "type").isEmpty then "Error" else text "type") [.str (text "message")]

end Fault

/-- A result under a key, or the fields of the fault. -/
def Result.fieldsAs (key : String) : Result Json → List (String × Json)
  | .ok j => [(key, j)]
  | .error f => f.fields

end Pageflow
