import Pageflow.Number.Decimal
import Pageflow.Schema.Issue
import Pageflow.Text.Blank
import Pageflow.Text.Parts
/-!
Faults: everything that can end an operation early, each with its cause, the name it is reported
under, its message and the kind it is counted as.
-/
namespace Pageflow

/-- The kinds of failure a task can end with. -/
inductive FaultKind where
  | navigation
  | elementNotFound
  | staleSession
  | extraction
  | compositing
  | upload
  | networkIdle
  | challengeTimeout
  | session
  | timeout
  | internal
deriving DecidableEq

namespace FaultKind

def name : FaultKind → String
  | .navigation => "navigation"
  | .elementNotFound => "element_not_found"
  | .staleSession => "stale_session"
  | .extraction => "extraction"
  | .compositing => "compositing"
  | .upload => "upload"
  | .networkIdle => "network_idle"
  | .challengeTimeout => "challenge_timeout"
  | .session => "session"
  | .timeout => "timeout"
  | .internal => "internal"

def all : List FaultKind :=
  [.navigation, .elementNotFound, .staleSession, .extraction, .compositing, .upload, .networkIdle,
    .challengeTimeout, .session, .timeout, .internal]

end FaultKind

/-- What went wrong. The first group are faults of this library's own making and carry a kind. -/
inductive Fault where
  | general (message : String)
  | sessionLaunch (message : String)
  | staleSession (message : String)
  | navigation (message : String)
  | elementNotFound (selector : String) (timeoutMs : Option Int)
  | networkIdle (idleMs timeoutMs : Int)
  | compositing (message : String)
  | upload (message : String)
  | challengeTimeout (taskId : String) (timeoutSec : Double)
  | workflowTimeout (message : String)
  | workflowNotFound (workflowId : String)
  | workflowDisabled (workflowId : String)
  | batchLimit (size limit : Int)
  /-- The browser gave up waiting. -/
  | browserTimeout (message : String)
  /-- Any other failure of the browser. -/
  | browser (message : String)
  /-- A document does not fit its schema. -/
  | invalid (issues : List Schema.Issue)
  /-- The bytes are no image. -/
  | unreadableImage
  /-- A failure of another part of the system, under the name it reports. -/
  | foreign (name message : String)
  /-- The operation was cancelled from outside; this is not a failure that a task survives. -/
  | cancelled
deriving DecidableEq

namespace Fault

/-- The name a fault is reported under. -/
def name : Fault → String
  | .general _ => "PagerunError"
  | .sessionLaunch _ => "SessionLaunchError"
  | .staleSession _ => "StaleSessionError"
  | .navigation _ => "NavigationError"
  | .elementNotFound _ _ => "ElementNotFoundError"
  | .networkIdle _ _ => "NetworkIdleTimeout"
  | .compositing _ => "CompositingError"
  | .upload _ => "UploadError"
  | .challengeTimeout _ _ => "ChallengeTimeoutError"
  | .workflowTimeout _ => "WorkflowTimeoutError"
  | .workflowNotFound _ => "WorkflowNotFoundError"
  | .workflowDisabled _ => "WorkflowDisabledError"
  | .batchLimit _ _ => "BatchLimitError"
  | .browserTimeout _ => "TimeoutError"
  | .browser _ => "Error"
  | .invalid _ => "ValidationError"
  | .unreadableImage => "UnidentifiedImageError"
  | .foreign name _ => name
  | .cancelled => "CancelledError"

/-- The message of a fault. -/
def message : Fault → String
  | .general m | .sessionLaunch m | .staleSession m | .navigation m | .compositing m | .upload m
  | .workflowTimeout m | .browserTimeout m | .browser m | .foreign _ m => m
  | .elementNotFound selector (some ms) =>
    "Element not visible within " ++ toString ms ++ "ms: " ++ selector
  | .elementNotFound selector none => "Element not visible: " ++ selector
  | .networkIdle idle timeout =>
    "Network did not stay idle for " ++ toString idle ++ "ms within " ++ toString timeout ++ "ms"
  | .challengeTimeout task seconds =>
    "Task " ++ task ++ " was not resumed within " ++ Decimal.general 6 seconds ++
      "s of pausing on a challenge"
  | .workflowNotFound id => "Workflow not found: " ++ id
  | .workflowDisabled id => "Workflow is disabled: " ++ id
  | .batchLimit size limit =>
    "Batch size " ++ toString size ++ " exceeds the limit of " ++ toString limit
  | .invalid _ | .unreadableImage | .cancelled => ""

/-- The kind of a fault of this library's own making. -/
def ownKind? : Fault → Option FaultKind
  | .general _ => some .internal
  | .sessionLaunch _ => some .session
  | .staleSession _ => some .staleSession
  | .navigation _ => some .navigation
  | .elementNotFound _ _ => some .elementNotFound
  | .networkIdle _ _ => some .networkIdle
  | .compositing _ => some .compositing
  | .upload _ => some .upload
  | .challengeTimeout _ _ => some .challengeTimeout
  | .workflowTimeout _ => some .timeout
  | .workflowNotFound _ | .workflowDisabled _ | .batchLimit _ _ => some .internal
  | _ => none

/-- A fault that the browser reports. -/
def fromBrowser : Fault → Bool
  | .browserTimeout _ | .browser _ => true
  | _ => false

/-- A cancellation, which no part of a task recovers from. -/
def isCancelled : Fault → Bool
  | .cancelled => true
  | _ => false

/-- The first line of a fault's message, at most 300 characters; its name if there is no message. -/
def headline (fault : Fault) : String :=
  let text := Text.trim fault.message
  Text.take 300 (if text.isEmpty then fault.name else Text.firstLine text)

end Fault

/-- A result or the fault that prevented it. -/
abbrev Result (α : Type) := Except Fault α

end Pageflow
