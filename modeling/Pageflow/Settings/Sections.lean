import Pageflow.Json.Writer
import Pageflow.Schema.Scalar
/-!
The sections of the settings, each with its defaults. A section takes no keys but its own.
-/
namespace Pageflow

open Schema

/-- An issue for every key that is not among the known ones. -/
def Schema.closed (known : List String) (fields : List (String × Json)) : Checked Unit :=
  let unknown := (fields.map (·.1)).filter fun key => !known.contains key
  if unknown.isEmpty then .valid () else .invalid (unknown.map fun key => ⟨[.key key], .extraForbidden⟩)

/-- A check of the fields of a section that is not to have any others. -/
def Schema.closedTable {α : Type} (name : String) (known : List String)
    (check : List (String × Json) → Checked α) : Json → Checked α
  | .obj fields => (fun a _ => a) <$> check fields <*> closed known fields
  | _ => .fail (.modelType name)

/-- An optional field under its plain name. -/
def Schema.field {α : Type} (fields : List (String × Json)) (name : String) (default : α)
    (check : Json → Checked α) : Checked α := optional fields name name default check

/-- A natural number not below `bound`. -/
def Schema.natAtLeast (bound : Nat) (j : Json) : Checked Nat := Int.toNat <$> intAtLeast bound j

/-- A number above zero. -/
def Schema.positive (j : Json) : Checked Double :=
  (double j).andThen fun x =>
    if Double.lt (Double.finite 0) x then .valid x else .fail (.above "0")

/-- How the browser is launched and what its pages allow. -/
structure BrowserSettings where
  headless : Bool
  executablePath : String
  channel : String
  profileDir : String
  viewportWidth : Int
  viewportHeight : Int
  launchArgs : List String
  defaultTimeoutMs : Int
  navigationTimeoutMs : Int

/-- How workflows are run. -/
structure RunnerSettings where
  readySelector : String
  readyTimeoutMs : Int
  extractionFailedValue : String
  compositeMissingValue : String
  maxDurationSec : Int
  maxBatchSize : Nat
  taskRetention : Nat
  workflowDir : String

/-- How long captures and scrolling proceed. -/
structure CaptureSettings where
  overlapPx : Int
  idleMs : Int
  idleTimeoutMs : Int
  maxTiles : Nat
  scrollDeltaPx : Int
  scrollPauseMs : Int
  stableRounds : Nat
  maxScrollRounds : Nat

/-- What counts as a challenge and how long a task waits for its resolution. -/
structure ChallengeSettings where
  enabled : Bool
  containerSelectors : List String
  keywords : List String
  pauseTimeoutSec : Double

/-- Where captured images are stored. -/
structure StorageSettings where
  backend : String
  localDir : String
  publicBaseUrl : String
  gcsBucket : String
  gcsPrefix : String
  keyPrefix : String

/-- Where progress is reported. -/
structure MonitoringSettings where
  webhookUrl : String
  webhookTimeoutSec : Double
  jsonlOutput : Bool

structure ApiSettings where
  corsOrigins : List String

namespace BrowserSettings

def keys : List String :=
  ["headless", "executable_path", "channel", "profile_dir", "viewport_width", "viewport_height",
    "launch_args", "default_timeout_ms", "navigation_timeout_ms"]

def decode : Json → Checked BrowserSettings :=
  closedTable "BrowserSettings" keys fun fields =>
    BrowserSettings.mk <$> field fields "headless" true bool
      <*> field fields "executable_path" "" text
      <*> field fields "channel" "" text
      <*> field fields "profile_dir" "data/profile" text
      <*> field fields "viewport_width" 1920 int
      <*> field fields "viewport_height" 1080 int
      <*> field fields "launch_args" ["--disable-blink-features=AutomationControlled"] (listOf text)
      <*> field fields "default_timeout_ms" 15000 int
      <*> field fields "navigation_timeout_ms" 60000 int

def toJson (s : BrowserSettings) : Json :=
  .obj [("headless", s.headless), ("executable_path", s.executablePath), ("channel", s.channel),
    ("profile_dir", s.profileDir), ("viewport_width", s.viewportWidth),
    ("viewport_height", s.viewportHeight), ("launch_args", .arr (s.launchArgs.map .str)),
    ("default_timeout_ms", s.defaultTimeoutMs), ("navigation_timeout_ms", s.navigationTimeoutMs)]

end BrowserSettings

namespace RunnerSettings

def keys : List String :=
  ["ready_selector", "ready_timeout_ms", "extraction_failed_value", "composite_missing_value",
    "max_duration_sec", "max_batch_size", "task_retention", "workflow_dir"]

def decode : Json → Checked RunnerSettings :=
  closedTable "RunnerSettings" keys fun fields =>
    RunnerSettings.mk <$> field fields "ready_selector" "body" text
      <*> field fields "ready_timeout_ms" 20000 int
      <*> field fields "extraction_failed_value" "extraction failed" text
      <*> field fields "composite_missing_value" "not found" text
      <*> field fields "max_duration_sec" 600 (intAtLeast 10)
      <*> field fields "max_batch_size" 10 (natAtLeast 1)
      <*> field fields "task_retention" 500 (natAtLeast 1)
      <*> field fields "workflow_dir" "config/workflows" text

def toJson (s : RunnerSettings) : Json :=
  .obj [("ready_selector", s.readySelector), ("ready_timeout_ms", s.readyTimeoutMs),
    ("extraction_failed_value", s.extractionFailedValue),
    ("composite_missing_value", s.compositeMissingValue), ("max_duration_sec", s.maxDurationSec),
    ("max_batch_size", .int s.maxBatchSize), ("task_retention", .int s.taskRetention),
    ("workflow_dir", s.workflowDir)]

end RunnerSettings

namespace CaptureSettings

def keys : List String :=
  ["overlap_px", "idle_ms", "idle_timeout_ms", "max_tiles", "scroll_delta_px", "scroll_pause_ms",
    "stable_rounds", "max_scroll_rounds"]

def decode : Json → Checked CaptureSettings :=
  closedTable "CaptureSettings" keys fun fields =>
    CaptureSettings.mk <$> field fields "overlap_px" 50 (intAtLeast 1)
      <*> field fields "idle_ms" 500 int
      <*> field fields "idle_timeout_ms" 10000 int
      <*> field fields "max_tiles" 200 (natAtLeast 1)
      <*> field fields "scroll_delta_px" 800 int
      <*> field fields "scroll_pause_ms" 1500 int
      <*> field fields "stable_rounds" 3 (natAtLeast 1)
      <*> field fields "max_scroll_rounds" 60 (natAtLeast 1)

def toJson (s : CaptureSettings) : Json :=
  .obj [("overlap_px", s.overlapPx), ("idle_ms", s.idleMs), ("idle_timeout_ms", s.idleTimeoutMs),
    ("max_tiles", .int s.maxTiles), ("scroll_delta_px", s.scrollDeltaPx),
    ("scroll_pause_ms", s.scrollPauseMs), ("stable_rounds", .int s.stableRounds),
    ("max_scroll_rounds", .int s.maxScrollRounds)]

end CaptureSettings

namespace ChallengeSettings

def keys : List String := ["enabled", "container_selectors", "keywords", "pause_timeout_sec"]

def defaultSelectors : List String :=
  ["#captcha_container", ".captcha_verify_container", "[role='dialog']"]

def defaultKeywords : List String :=
  ["verify", "verification", "captcha", "slider", "drag the", "security check"]

def decode : Json → Checked ChallengeSettings :=
  closedTable "ChallengeSettings" keys fun fields =>
    ChallengeSettings.mk <$> field fields "enabled" true bool
      <*> field fields "container_selectors" defaultSelectors (listOf text)
      <*> field fields "keywords" defaultKeywords (listOf text)
      <*> field fields "pause_timeout_sec" (Double.ofInt 900) positive

def toJson (s : ChallengeSettings) : Json :=
  .obj [("enabled", s.enabled), ("container_selectors", .arr (s.containerSelectors.map .str)),
    ("keywords", .arr (s.keywords.map .str)), ("pause_timeout_sec", .float s.pauseTimeoutSec)]

end ChallengeSettings

namespace StorageSettings

def keys : List String :=
  ["backend", "local_dir", "public_base_url", "gcs_bucket", "gcs_prefix", "key_prefix"]

def decode : Json → Checked StorageSettings :=
  closedTable "StorageSettings" keys fun fields =>
    StorageSettings.mk <$> field fields "backend" "local" text
      <*> field fields "local_dir" "data/blobs" text
      <*> field fields "public_base_url" "" text
      <*> field fields "gcs_bucket" "" text
      <*> field fields "gcs_prefix" "" text
      <*> field fields "key_prefix" "automation_screenshots" text

def toJson (s : StorageSettings) : Json :=
  .obj [("backend", s.backend), ("local_dir", s.localDir), ("public_base_url", s.publicBaseUrl),
    ("gcs_bucket", s.gcsBucket), ("gcs_prefix", s.gcsPrefix), ("key_prefix", s.keyPrefix)]

end StorageSettings

namespace MonitoringSettings

def keys : List String := ["webhook_url", "webhook_timeout_sec", "jsonl_output"]

def decode : Json → Checked MonitoringSettings :=
  closedTable "MonitoringSettings" keys fun fields =>
    MonitoringSettings.mk <$> field fields "webhook_url" "" text
      <*> field fields "webhook_timeout_sec" (Double.ofInt 10) double
      <*> field fields "jsonl_output" false bool

def toJson (s : MonitoringSettings) : Json :=
  .obj [("webhook_url", s.webhookUrl), ("webhook_timeout_sec", .float s.webhookTimeoutSec),
    ("jsonl_output", s.jsonlOutput)]

end MonitoringSettings

namespace ApiSettings

def keys : List String := ["cors_origins"]

def decode : Json → Checked ApiSettings :=
  closedTable "APISettings" keys fun fields =>
    ApiSettings.mk <$> field fields "cors_origins"
      ["http://localhost:3000", "http://localhost:5173"] (listOf text)

def toJson (s : ApiSettings) : Json := .obj [("cors_origins", .arr (s.corsOrigins.map .str))]

end ApiSettings
end Pageflow
