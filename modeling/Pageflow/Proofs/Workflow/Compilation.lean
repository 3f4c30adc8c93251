import Pageflow.Schema.Scalar
import Pageflow.Workflow.Decode
import Pageflow.Workflow.Document
import Pageflow.Workflow.Resolve

/-! Resolving placeholders by way of documents: a step is written out, every text of its document
is replaced, and the document is read again. Whatever the texts become, what is read is the step
with its texts replaced. Under either naming a whole workflow is read back as it was. -/
namespace Pageflow.Schema

/-! ## Checks that succeed -/

variable {α β : Type}

namespace Checked

@[simp] theorem map_valid (f : α → β) (a : α) : f <$> (.valid a : Checked α) = .valid (f a) := rfl

@[simp] theorem seq_valid (f : α → β) (a : α) :
    (.valid f : Checked (α → β)) <*> (.valid a : Checked α) = .valid (f a) := rfl

@[simp] theorem under_valid (segment : Segment) (a : α) :
    (.valid a : Checked α).under segment = .valid a := rfl

@[simp] theorem andThen_valid (a : α) (f : α → Checked β) :
    (.valid a : Checked α).andThen f = f a := rfl

end Checked

@[simp] theorem text_str (s : String) : text (.str s) = .valid s := rfl

theorem intAtLeast_int {bound n : Int} (h : bound ≤ n) : intAtLeast bound (.int n) = .valid n :=
  if_pos h

variable {fields : List (String × Json)} {written name key : String} {check : Json → Checked α}
  {j : Json} {a : α}

theorem required_valid (hfound : findField fields written name = some (key, j))
    (hvalid : check j = .valid a) : required fields written name check = .valid a := by
  unfold required
  simp only [hfound, hvalid, Checked.under_valid]

theorem optional_valid {default : α} (hfound : findField fields written name = some (key, j))
    (hvalid : check j = .valid a) : optional fields written name default check = .valid a := by
  unfold optional
  simp only [hfound, hvalid, Checked.under_valid]

/-- Items that are valid one by one make a valid list. -/
theorem checkItems_map (write : β → Json) (read : β → α) (start : Nat) (items : List β)
    (h : ∀ b ∈ items, check (write b) = .valid (read b)) :
    checkItems check start (items.map write) = .valid (items.map read) := by
  induction items generalizing start with
  | nil => rfl
  | cons b rest ih =>
    obtain ⟨hb, hrest⟩ := List.forall_mem_cons.mp h
    simp only [List.map_cons, checkItems, hb, ih (start + 1) hrest, Checked.under_valid,
      Checked.map_valid, Checked.seq_valid]

end Pageflow.Schema

namespace Pageflow

/-! ## Steps as documents -/

namespace Json

mutual
/-- A document with `f` applied to every text in it; keys are no texts. -/
def mapText (f : String → String) : Json → Json
  | .str s => .str (f s)
  | .arr items => .arr (mapItems f items)
  | .obj fields => .obj (mapFields f fields)
  | .null => .null
  | .bool b => .bool b
  | .int n => .int n
  | .float x => .float x

def mapItems (f : String → String) : List Json → List Json
  | [] => []
  | j :: rest => mapText f j :: mapItems f rest

def mapFields (f : String → String) : List (String × Json) → List (String × Json)
  | [] => []
  | (key, j) :: rest => (key, mapText f j) :: mapFields f rest
end

theorem mapItems_map {α : Type} (f : String → String) (write : α → Json) (items : List α) :
    mapItems f (items.map write) = items.map fun a => (write a).mapText f := by
  induction items with
  | nil => rfl
  | cons a rest ih => rw [List.map_cons, mapItems, ih, List.map_cons]

end Json

open Schema

variable (f : String → String)

theorem Source.decode_mapText (s : Source) :
    Source.decode (s.toJson.mapText f) = .valid (s.mapText f) := rfl

theorem milliseconds_int (n : Nat) : milliseconds (.int n) = .valid n := by
  unfold milliseconds
  rw [intAtLeast_int (Int.natCast_nonneg n), Checked.map_valid, Int.toNat_natCast]

theorem positiveMs_int (n : Nat) (h : 0 < n) : positiveMs (.int n) = .valid ⟨n, h⟩ := by
  unfold positiveMs
  rw [intAtLeast_int (by omega), Checked.andThen_valid]
  simp [h]

theorem sources_valid (sources : List Source) :
    listOf Source.decode (.arr (Json.mapItems f (sources.map Source.toJson))) =
      .valid (sources.map (Source.mapText f)) := by
  rw [Json.mapItems_map]
  exact checkItems_map _ _ 0 sources fun s _ => s.decode_mapText f

theorem Action.decodeFields?_waitForNetworkIdle {fields : List (String × Json)}
    {idleKey timeoutKey : String} {idle timeout : Nat} (h : 0 < timeout)
    (hidle : findField fields "idleMs" "idle_ms" = some (idleKey, .int idle))
    (htimeout : findField fields "timeoutMs" "timeout_ms" = some (timeoutKey, .int timeout)) :
    Action.decodeFields? "waitForNetworkIdle" fields =
      some (.valid (.waitForNetworkIdle idle timeout h)) := by
  change some (_ <$> optional fields "idleMs" "idle_ms" 1000 milliseconds <*>
    optional fields "timeoutMs" "timeout_ms" _ positiveMs) = _
  rw [optional_valid hidle (milliseconds_int idle),
    optional_valid htimeout (positiveMs_int timeout h)]
  rfl

theorem Action.decodeFields?_compositeExtract {fields : List (String × Json)} {nameKey : String}
    {template dataName : String} {sources : List Source}
    (htemplate : findField fields "template" "template" = some ("template", .str (f template)))
    (hsources : findField fields "sources" "sources" =
      some ("sources", .arr (Json.mapItems f (sources.map Source.toJson))))
    (hname : findField fields "dataName" "data_name" = some (nameKey, .str (f dataName))) :
    Action.decodeFields? "compositeExtract" fields = some (.valid
      (.compositeExtract (f template) (sources.map (Source.mapText f)) (f dataName))) := by
  change some (_ <$> required fields "template" "template" text <*>
    optional fields "sources" "sources" [] (listOf Source.decode) <*>
    required fields "dataName" "data_name" text) = _
  rw [required_valid htemplate (text_str _), optional_valid hsources (sources_valid f sources),
    required_valid hname (text_str _)]
  rfl

/-- The fields of an action under either naming, their texts replaced, are those of the action
with its texts replaced. -/
theorem Action.decodeFields?_mapText (naming : Naming) (description tag : Json) (a : Action) :
    Action.decodeFields? a.name (("description", description) :: ("action", tag) ::
      Json.mapFields f (a.fields naming)) = some (.valid (a.mapText f)) := by
  -- Texts are valid whatever they are, so only numbers and sources need more than computation.
  cases a with
  | navigate url ready => cases naming <;> rfl
  | wait ms =>
    exact congrArg (fun ms => some (Action.wait <$> ms)) (optional_valid rfl (milliseconds_int ms))
  | waitForSelector selector => rfl
  | click selector => rfl
  | screenshot selector stitched saveAs => cases naming <;> rfl
  | scrollPage selector => rfl
  | waitForNetworkIdle idle timeout h =>
    cases naming <;> exact decodeFields?_waitForNetworkIdle h rfl rfl
  | extractData selector dataName => cases naming <;> rfl
  | compositeExtract template sources dataName =>
    cases naming <;> exact decodeFields?_compositeExtract f rfl rfl rfl

theorem Action.name_mem_names (a : Action) : a.name ∈ Action.names := by
  cases a <;> simp [Action.name, Action.names]

@[simp] theorem Action.name_mapText (a : Action) : (a.mapText f).name = a.name := by
  cases a <;> rfl

theorem Action.fields_mapText (naming : Naming) (a : Action) :
    (a.mapText f).fields naming = Json.mapFields f (a.fields naming) := by
  cases a with
  | compositeExtract template sources dataName =>
    have hsources : (sources.map (Source.mapText f)).map Source.toJson =
        Json.mapItems f (sources.map Source.toJson) := by
      rw [Json.mapItems_map, List.map_map]
      rfl
    change [_, ("sources", Json.arr _), _] = _
    rw [hsources]
    rfl
  | _ => rfl

variable {f} {s : Step}

/-- Written out, the step with its texts replaced is the document with its texts replaced. -/
theorem Step.write_mapText (naming : Naming) (hname : f s.action.name = s.action.name) :
    (s.mapText f).write naming = (s.write naming).mapText f := by
  simp only [Step.write, Step.mapText, Action.name_mapText, Action.fields_mapText, Json.mapText,
    Json.mapFields, hname]

/-- The document of a step with its texts replaced is a step again, whatever the texts are, as
long as the action keeps its name. -/
theorem Step.decode_mapText (naming : Naming) (hname : f s.action.name = s.action.name) :
    Step.decode ((s.write naming).mapText f) = .valid (s.mapText f) := by
  have hfields := Action.decodeFields?_mapText f naming (.str (f s.description))
    (.str s.action.name) s.action
  have htag : List.lookup "action" (("description", Json.str (f s.description)) ::
      ("action", .str s.action.name) :: Json.mapFields f (s.action.fields naming)) =
      some (.str s.action.name) := rfl
  simp only [Step.write, Json.mapText, Json.mapFields, hname, Step.decode, htag, Json.str?,
    Option.bind_some, hfields, Option.map_some]
  rw [optional_valid rfl (text_str _)]
  rfl

/-! ## Placeholders -/

namespace Placeholder

theorem substitute_eq_self {template : String} (h : Text.contains template "\x7b\x7b" = false)
    (values : List (String × String)) : substitute template values = template := by
  unfold substitute
  rw [h, if_neg Bool.false_ne_true]

/-- The name of an action holds no placeholder. -/
theorem substitute_name (a : Action) (values : List (String × String)) :
    substitute a.name values = a.name := by
  have hplain : ∀ name ∈ Action.names, Text.contains name "\x7b\x7b" = false := by decide
  exact substitute_eq_self (hplain a.name a.name_mem_names) values

end Placeholder

/-- The value that a task has of its own under a name. -/
def TaskContext.own? (c : TaskContext) (name : String) : Option String :=
  if name = "taskId" ∨ name = "task_id" then some c.taskId
  else if (name = "correlationId" ∨ name = "correlation_id") ∧ c.correlationId ≠ "" then
    some c.correlationId
  else none

theorem lookup_addMissing (key value name : String) (values : List (String × String)) :
    (addMissing key value values).lookup name =
      (values.lookup name).or (if name = key then some value else none) := by
  unfold addMissing
  by_cases hname : name = key
  · subst hname
    split
    · rename_i hknown
      obtain ⟨known, hlookup⟩ := Option.isSome_iff_exists.mp hknown
      rw [hlookup, Option.some_or]
    · rw [List.lookup_append]
      simp
  · have hne : (name == key) = false := by simpa using hname
    rw [if_neg hname, Option.or_none]
    split
    · rfl
    · rw [List.lookup_append, List.lookup_cons, hne, List.lookup_nil, Option.or_none]

/-- A parameter hides the value that the task has under the same name. -/
theorem TaskContext.lookup_values (c : TaskContext) (name : String) :
    c.values.lookup name = (c.parameters.lookup name).or (c.own? name) := by
  have hor : ∀ (p q : Prop) [Decidable p] [Decidable q] (value : String),
      (if p then some value else none).or (if q then some value else none) =
        if p ∨ q then some value else none := by
    intro p q _ _ value
    by_cases hp : p <;> simp [hp]
  unfold TaskContext.values TaskContext.own?
  dsimp only
  split
  · rename_i hnone
    have hempty : c.correlationId = "" := String.isEmpty_iff.mp hnone
    simp only [lookup_addMissing, Option.or_assoc, hor, hempty, ne_eq, not_true_eq_false,
      and_false, ↓reduceIte]
  · rename_i hsome
    have hgiven : c.correlationId ≠ "" := mt String.isEmpty_iff.mpr hsome
    simp only [lookup_addMissing, Option.or_assoc, hor, hgiven, ne_eq, not_false_eq_true,
      and_true]
    congr 1
    split <;> simp

/-- Every workflow compiles for every task: the documents of its steps, with all placeholders in
their texts replaced, are the steps of the resolved workflow, one by one and in order, and these
differ from the template in nothing but the texts. -/
theorem Workflow.resolve_compiles (w : Workflow) (c : TaskContext) :
    (w.steps.map fun s => Step.decode
        ((s.write .plain).mapText (Placeholder.substitute · c.values))) =
      (w.resolve c).map .valid ∧
    (∀ naming, (w.resolve c).map (Step.write naming) = w.steps.map fun s =>
      (s.write naming).mapText (Placeholder.substitute · c.values)) ∧
    (w.resolve c).map (·.action.name) = w.steps.map (·.action.name) ∧
    ∀ name, c.values.lookup name = (c.parameters.lookup name).or (c.own? name) := by
  refine ⟨?_, fun naming => ?_, ?_, c.lookup_values⟩
  · rw [Workflow.resolve, List.map_map]
    exact List.map_congr_left fun s _ =>
      Step.decode_mapText .plain (Placeholder.substitute_name s.action c.values)
  · rw [Workflow.resolve, List.map_map]
    exact List.map_congr_left fun s _ =>
      Step.write_mapText naming (Placeholder.substitute_name s.action c.values)
  · rw [Workflow.resolve, List.map_map]
    exact List.map_congr_left fun s _ => Action.name_mapText _ s.action

/-! ## Round trips

Workflows written out and read again. Under either naming every field finds its place, and
what was valid when the workflow was first read is valid once more. -/

theorem Source.mapText_id : Source.mapText id = id := rfl

theorem Action.mapText_id (a : Action) : a.mapText id = a := by
  cases a with
  | compositeExtract template sources dataName =>
    simp only [Action.mapText, Source.mapText_id, List.map_id, id]
  | _ => rfl

theorem Step.mapText_id (s : Step) : s.mapText id = s := by
  simp only [Step.mapText, Action.mapText_id, id]

/-! ## The parts of a workflow -/

theorem Step.decode_write (naming : Naming) (s : Step) :
    Step.decode (s.write naming) = .valid s := by
  have hread := Step.decode_mapText naming (f := id) (s := s) rfl
  rwa [← Step.write_mapText naming rfl, Step.mapText_id] at hread

theorem workflowId_str {id : String} (h : isWorkflowId id = true) :
    workflowId (.str id) = .valid ⟨id, h⟩ := by
  unfold workflowId
  rw [text_str, Checked.andThen_valid, dif_pos h]

theorem stepList_write (naming : Naming) {steps : List Step} (h : steps ≠ []) :
    stepList (.arr (steps.map (Step.write naming))) = .valid ⟨steps, h⟩ := by
  have hitems : listOf Step.decode (.arr (steps.map (Step.write naming))) = .valid steps := by
    have hread := checkItems_map (Step.write naming) id 0 steps
      fun s _ => Step.decode_write naming s
    rwa [List.map_id] at hread
  unfold stepList
  rw [hitems, Checked.andThen_valid, dif_pos h]

theorem RequiredInput.decode_toJson (r : RequiredInput) :
    RequiredInput.decode r.toJson = .valid r := rfl

/-- What a workflow asks of its caller is read back, also where it asks nothing. -/
theorem nullable_ofOption (input : Option RequiredInput) :
    nullable RequiredInput.decode (Json.ofOption RequiredInput.toJson input) = .valid input := by
  cases input with
  | none => rfl
  | some r => exact congrArg (some <$> ·) r.decode_toJson

theorem tags_valid (tags : List String) : listOf text (.arr (tags.map .str)) = .valid tags := by
  have hread := checkItems_map Json.str id 0 tags fun s _ => text_str s
  rwa [List.map_id] at hread

/-! ## The whole document -/

/-- A workflow is read from any fields in which its values are found. -/
theorem Workflow.decode_fields {w : Workflow} {naming : Naming} {fields : List (String × Json)}
    {idKey inputKey : String}
    (hid : findField fields "workflowId" "workflow_id" = some (idKey, .str w.id))
    (hname : findField fields "name" "name" = some ("name", .str w.name))
    (hdescription : findField fields "description" "description" =
      some ("description", .str w.description))
    (hinput : findField fields "requiredInput" "required_input" =
      some (inputKey, Json.ofOption RequiredInput.toJson w.requiredInput))
    (hsteps : findField fields "steps" "steps" =
      some ("steps", .arr (w.steps.map (Step.write naming))))
    (henabled : findField fields "enabled" "enabled" = some ("enabled", .bool w.enabled))
    (hversion : findField fields "version" "version" = some ("version", .str w.version))
    (htags : findField fields "tags" "tags" = some ("tags", .arr (w.tags.map .str))) :
    Workflow.decode (.obj fields) = .valid w := by
  unfold Workflow.decode
  dsimp only
  rw [required_valid hid (workflowId_str w.id_valid), optional_valid hname (text_str w.name),
    optional_valid hdescription (text_str w.description),
    optional_valid hinput (nullable_ofOption w.requiredInput),
    required_valid hsteps (stepList_write naming w.steps_ne),
    optional_valid henabled (show Schema.bool (.bool w.enabled) = .valid w.enabled from rfl),
    optional_valid hversion (text_str w.version), optional_valid htags (tags_valid w.tags)]
  rfl

/-- Every workflow is read back from its document as it was, whichever names the document gives
the fields: no step kind, optional field or nested source is lost or changed. -/
theorem Workflow.write_reads_back (naming : Naming) (w : Workflow) :
    Workflow.decode (w.write naming) = .valid w := by
  -- A field is found by computing with the names, so the naming has to be known.
  cases naming <;> exact decode_fields rfl rfl rfl rfl rfl rfl rfl rfl

end Pageflow
