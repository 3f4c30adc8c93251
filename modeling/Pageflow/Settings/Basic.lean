import Pageflow.Files.Tree
import Pageflow.Schema.Outcome
import Pageflow.Settings.Environment
/-!
The settings: all sections, resolved from the default file, the file of the environment, the local
file, environment variables and explicit values, the later ones winning.
-/
namespace Pageflow

open Schema

/-- The resolved settings. -/
structure Settings where
  env : String
  projectRoot : String
  debug : Bool
  browser : BrowserSettings
  runner : RunnerSettings
  capture : CaptureSettings
  challenge : ChallengeSettings
  storage : StorageSettings
  monitoring : MonitoringSettings
  api : ApiSettings

namespace Settings

/-- The environment that is assumed when none is named. -/
def defaultEnv : String := "local"

/-- The name of the environment, from the variable if it is set. -/
def envName (env : Environment) : String :=
  match env.lookup "PAGERUN_ENV" with
  | some value => if value.isEmpty then defaultEnv else value
  | none => defaultEnv

/-- A path, in normal form. -/
def pathText : Json → Checked String
  | .str s => .valid (Path.ofString s).toString
  | _ => .fail .pathType

/-- A section, unless one of its list variables is empty. -/
def sectionOf {α : Type} (env : Environment) (fields : List (String × Json)) (name : String)
    (lists : List String) (check : Json → Checked α) : Checked α :=
  let document := (fields.lookup name).getD (.obj [])
  (match document, emptyList? env name lists with
    | .obj _, some key => Checked.fail (.value (parseError key))
    | document, _ => check document).under (.key name)

/-- The settings from their merged fields. -/
def decode (env : Environment) (fields : List (String × Json)) : Checked Settings :=
  Settings.mk <$> field fields "env" (Text.trim (envName env)) text
    <*> field fields "project_root" "." pathText
    <*> field fields "debug" false bool
    <*> sectionOf env fields "browser" ["launch_args"] BrowserSettings.decode
    <*> sectionOf env fields "runner" [] RunnerSettings.decode
    <*> sectionOf env fields "capture" [] CaptureSettings.decode
    <*> sectionOf env fields "challenge" ["container_selectors", "keywords"] ChallengeSettings.decode
    <*> sectionOf env fields "storage" [] StorageSettings.decode
    <*> sectionOf env fields "monitoring" [] MonitoringSettings.decode
    <*> sectionOf env fields "api" ["cors_origins"] ApiSettings.decode

/-- A path seen from the project's root, unless it is absolute. -/
def inProject (root path : String) : String :=
  if (Path.ofString path).isAbsolute then path
  else ((Path.ofString root).join (Path.ofString path)).toString

/-- The settings with their directories seen from the project's root. -/
def resolvePaths (s : Settings) : Settings :=
  { s with
    browser := { s.browser with profileDir := inProject s.projectRoot s.browser.profileDir }
    storage := { s.storage with localDir := inProject s.projectRoot s.storage.localDir }
    runner := { s.runner with workflowDir := inProject s.projectRoot s.runner.workflowDir } }

/-- The name by which the file of the environment is chosen. -/
def layerName (env : Environment) (given : List (String × Json)) : Result String :=
  match given.lookup "env" with
  | none => .ok (Text.trim (envName env))
  | some (.str s) => .ok (Text.trim (if s.isEmpty then envName env else s))
  | some j =>
    if j.truthy then
      .error (.foreign "AttributeError" ("'" ++ j.kindName ++ "' object has no attribute 'strip'"))
    else .ok (Text.trim (envName env))

/-- Resolves the settings. `file` gives the content of the settings file of a layer. -/
def load (file : String → List (String × Json)) (env : Environment)
    (explicit : List (String × Json)) : Result Settings := do
  let fromEnv ← match fromEnvironment env with
    | .ok fields => pure fields
    | .error text => throw (.foreign "SettingsError" text)
  let given := deepMerge fromEnv explicit
  let name ← layerName env given
  let merged := mergeLayers [file "default", file name, file "local", given]
  resolvePaths <$> (decode env merged).toResult

def toJson (s : Settings) : Json :=
  .obj [("env", s.env), ("project_root", s.projectRoot), ("debug", s.debug),
    ("browser", s.browser.toJson), ("runner", s.runner.toJson), ("capture", s.capture.toJson),
    ("challenge", s.challenge.toJson), ("storage", s.storage.toJson),
    ("monitoring", s.monitoring.toJson), ("api", s.api.toJson)]

end Settings
end Pageflow
