import Pageflow.Json.Reader
import Pageflow.Json.Value
import Pageflow.Settings.Sections
import Pageflow.Text.Case
/-!
Layers of configuration, and the one that the environment gives. A layer maps keys to values and
sections to tables; a later layer wins key by key, inside a section as well as at the top.
-/
namespace Pageflow.Settings

/-- A table over another one: the keys of `upper` win. -/
def overlay (lower upper : List (String × Json)) : List (String × Json) :=
  upper.foldl (fun fields (key, value) => Json.setKey key value fields) lower

/-- One key of a layer put over the layers below: tables are merged, anything else replaces. -/
def mergeKey (merged : List (String × Json)) (entry : String × Json) : List (String × Json) :=
  match merged.lookup entry.1, entry.2 with
  | some (.obj lower), .obj upper => Json.setKey entry.1 (.obj (overlay lower upper)) merged
  | _, _ => Json.setKey entry.1 entry.2 merged

/-- A layer put over the layers below. -/
def mergeLayer (merged layer : List (String × Json)) : List (String × Json) :=
  layer.foldl mergeKey merged

/-- All layers merged, the lowest first. -/
def mergeLayers (layers : List (List (String × Json))) : List (String × Json) :=
  layers.foldl mergeLayer []

mutual
/-- A value put over another one, tables merged at every depth. -/
def deepValue (lower : Option Json) : Json → Json
  | .obj upper =>
    match lower with
    | some (.obj below) => .obj (deepMerge below upper)
    | _ => .obj upper
  | value => value

/-- A table put over another one, tables inside merged at every depth. -/
def deepMerge (lower : List (String × Json)) : List (String × Json) → List (String × Json)
  | [] => lower
  | (key, value) :: rest =>
    deepMerge (Json.setKey key (deepValue (lower.lookup key) value) lower) rest
end

/-! ## Environment variables

`PAGERUN_<FIELD>` gives a field of the root, as JSON where it is a section, and
`PAGERUN_<SECTION>__<FIELD>` a field of a section, as JSON where it is a list. Names are read without
regard to case. -/

/-- The variables of an environment. -/
abbrev Environment := List (String × String)

/-- The variables under lower-case names. -/
def Environment.lowered (env : Environment) : Environment :=
  Json.table (env.map fun (name, value) => (Text.lower name, value))

/-- The sections, with their keys and those keys that hold lists. -/
def sections : List (String × List String × List String) :=
  [("browser", BrowserSettings.keys, ["launch_args"]), ("runner", RunnerSettings.keys, []),
    ("capture", CaptureSettings.keys, []),
    ("challenge", ChallengeSettings.keys, ["container_selectors", "keywords"]),
    ("storage", StorageSettings.keys, []), ("monitoring", MonitoringSettings.keys, []),
    ("api", ApiSettings.keys, ["cors_origins"])]

/-- The sentence for a variable whose text is not JSON. -/
def parseError (field : String) : String :=
  "error parsing value for field \"" ++ field ++ "\" from source \"EnvSettingsSource\""

/-- The parts of a name between double underscores. -/
def splitName : List Char → List Char → List String
  | seen, [] => [String.ofList seen.reverse]
  | seen, '_' :: '_' :: rest => String.ofList seen.reverse :: splitName [] rest
  | seen, c :: rest => splitName (c :: seen) rest

/-- Puts a value at the end of a way of keys. What is no table on the way keeps its value. -/
def setDeep (fields : List (String × Json)) (value : Json) : List String → List (String × Json)
  | [] => fields
  | [key] => Json.setKey key value fields
  | key :: more =>
    match fields.lookup key with
    | some (.obj inner) => Json.setKey key (.obj (setDeep inner value more)) fields
    | some _ => fields
    | none => Json.setKey key (.obj (setDeep [] value more)) fields

/-- The fields of a section that single variables give. -/
def exploded (env : Environment) (name : String) (lists : List String) :
    Except Unit (List (String × Json)) :=
  env.foldlM (fun fields (name', value) =>
    match Text.dropWord? ("pagerun_" ++ name ++ "__").toList name'.toList with
    | none => .ok fields
    | some rest =>
      let way := splitName [] rest
      let isList := match way with
        | [key] => lists.contains key
        | _ => false
      if isList && !value.isEmpty then
        match Json.read? value with
        | some j => .ok (setDeep fields j way)
        | none => .error ()
      else .ok (setDeep fields (.str value) way)) []

/-- What the environment gives for one section. -/
def sectionValue (env : Environment) (name : String) (lists : List String) :
    Except Unit (Option Json) :=
  match env.lookup ("pagerun_" ++ name) with
  | none => (exploded env name lists).map fun fields =>
    if fields.isEmpty then none else some (.obj fields)
  | some source =>
    match Json.read? source with
    | none => .error ()
    | some (.obj given) => (exploded env name lists).map fun fields => some (.obj (deepMerge given fields))
    | some j => .ok (some j)

/-- What the environment gives for the root. -/
def fromEnvironment (env : Environment) : Except String (List (String × Json)) := do
  let env := env.lowered
  let plain := ["env", "project_root", "debug"].filterMap fun name =>
    (env.lookup ("pagerun_" ++ name)).map fun value => (name, Json.str value)
  let given ← sections.filterMapM fun (name, _, lists) =>
    match sectionValue env name lists with
    | .ok value => .ok (value.map (name, ·))
    | .error () => .error (parseError name)
  pure (plain ++ given)

/-- A list field of a section whose own variable is empty: such a section cannot be read. -/
def emptyList? (env : Environment) (name : String) (lists : List String) : Option String :=
  lists.find? fun key => env.lowered.lookup ("pagerun_" ++ name ++ "__" ++ key) == some ""

end Pageflow.Settings
