import Mathlib.Data.List.Induction
import Pageflow.Proofs.Json.Table
import Pageflow.Settings.Basic

/-! The four layers of the settings. The environment and the explicit values give one of them,
above the files; what is checked is what the four make together. -/
namespace Pageflow.Settings

open Json

/-! ## Layers

The layers are laid over each other section by section and in a section key by key, so of each key
the highest layer that gives it is the one that counts. -/

section

variable {name key : String} {layer merged lower upper : List (String × Json)}
variable {layers : List (List (String × Json))}

/-- What a layer gives for a key of a section. -/
def value? (name key : String) (layer : List (String × Json)) : Option Json :=
  (layer.lookup name).bind (Json.get? key)

/-- A layer as it is read: each key stands once, and so does each key of its tables. -/
structure Tidy (layer : List (String × Json)) : Prop where
  keys : (layer.map Prod.fst).Nodup
  tables {name : String} {value : Json} : layer.lookup name = some value → value.KeysOnce

/-- Under `name` the layer holds a table, if anything. -/
def HoldsTable (name : String) (layer : List (String × Json)) : Prop :=
  ∀ value, layer.lookup name = some value → ∃ fields, value = .obj fields

/-- Under `name` the layer holds no table. -/
def HoldsScalar (name : String) (layer : List (String × Json)) : Prop :=
  ∀ fields, layer.lookup name ≠ some (.obj fields)

/-- The merged fields, told from the layers, the lowest first. -/
structure Merges (layers : List (List (String × Json))) (merged : List (String × Json)) : Prop where
  /-- In a section the highest layer with the key counts. -/
  value {name : String} (key : String) : (∀ layer ∈ layers, HoldsTable name layer) →
    value? name key merged = layers.reverse.findSome? (value? name key)
  /-- No key of a section is lost, whatever else the layers above set there. -/
  kept {name key : String} {layer : List (String × Json)} :
    (∀ layer ∈ layers, HoldsTable name layer) → layer ∈ layers →
    (value? name key layer).isSome → (value? name key merged).isSome
  /-- What stands beside the sections comes from the highest layer that gives it. -/
  scalar {name : String} : (∀ layer ∈ layers, HoldsScalar name layer) →
    merged.lookup name = layers.reverse.findSome? (·.lookup name)

theorem Tidy.of_entries (hkeys : (layer.map Prod.fst).Nodup)
    (hentries : ∀ entry ∈ layer, entry.2.KeysOnce) : Tidy layer where
  keys := hkeys
  tables {name value} hvalue := by
    obtain ⟨before, after, hsplit, -⟩ := List.lookup_eq_some_iff.1 hvalue
    exact hentries (name, value) (hsplit ▸ by simp)

/-! ## One layer over the layers below -/

/-- A value over what stands below it: a table over a table, or the value alone. -/
def layValue (below : Option Json) (value : Json) : Json :=
  match below, value with
  | some (.obj lower), .obj upper => .obj (overlay lower upper)
  | _, value => value

theorem overlay_eq : overlay lower upper = layOver (fun _ value => value) lower upper := rfl

theorem mergeKey_eq (merged : List (String × Json)) (key : String) (value : Json) :
    mergeKey merged (key, value) = setKey key (layValue (merged.lookup key) value) merged := by
  unfold mergeKey layValue
  split <;> simp_all

theorem mergeLayer_eq : mergeLayer merged layer = layOver layValue merged layer := by
  unfold mergeLayer layOver
  congr 1
  funext merged entry
  exact mergeKey_eq merged entry.1 entry.2

theorem lookup_mergeLayer (h : (layer.map Prod.fst).Nodup) (name : String) :
    (mergeLayer merged layer).lookup name =
      (layer.lookup name).elim (merged.lookup name) fun value =>
        some (layValue (merged.lookup name) value) := by
  rw [mergeLayer_eq, lookup_layOver h]

theorem lookup_overlay (h : (upper.map Prod.fst).Nodup) (key : String) :
    (overlay lower upper).lookup key = (upper.lookup key).or (lower.lookup key) := by
  rw [overlay_eq, lookup_layOver h]
  cases upper.lookup key <;> rfl

theorem HoldsTable.mergeLayer (hmerged : HoldsTable name merged) (htidy : Tidy layer)
    (hlayer : HoldsTable name layer) : HoldsTable name (mergeLayer merged layer) := by
  intro value h
  rw [lookup_mergeLayer htidy.keys] at h
  cases hup : layer.lookup name with
  | none => exact hmerged value (by simpa [hup] using h)
  | some given =>
    obtain ⟨upper, rfl⟩ := hlayer given hup
    rw [hup, Option.elim_some, Option.some.injEq] at h
    unfold layValue at h
    split at h
    · exact ⟨_, h.symm⟩
    · exact ⟨_, h.symm⟩

/-- A key of a section is the layer's own, or else what it was below. -/
theorem value?_mergeLayer (hmerged : HoldsTable name merged) (htidy : Tidy layer)
    (hlayer : HoldsTable name layer) (key : String) :
    value? name key (mergeLayer merged layer) =
      (value? name key layer).or (value? name key merged) := by
  unfold value?
  rw [lookup_mergeLayer htidy.keys]
  cases hup : layer.lookup name with
  | none => rfl
  | some given =>
    obtain ⟨upper, rfl⟩ := hlayer given hup
    cases hlow : merged.lookup name with
    | none => simp [layValue]
    | some below =>
      obtain ⟨lower, rfl⟩ := hmerged below hlow
      exact lookup_overlay (htidy.tables hup _ rfl) key

theorem lookup_mergeLayer_scalar (htidy : Tidy layer) (hlayer : HoldsScalar name layer) :
    (mergeLayer merged layer).lookup name = (layer.lookup name).or (merged.lookup name) := by
  rw [lookup_mergeLayer htidy.keys]
  cases hup : layer.lookup name with
  | none => rfl
  | some given =>
    have hover : layValue (merged.lookup name) given = given := by
      unfold layValue
      split
      · exact absurd hup (hlayer _)
      · rfl
    simp [hover]

/-! ## All layers -/

theorem mergeLayers_concat : mergeLayers (layers ++ [layer]) = mergeLayer (mergeLayers layers) layer := by
  simp [mergeLayers]

/-- By induction on the layers from below: what is merged so far holds tables under the name,
so the next layer is laid over it key by key. -/
theorem value?_mergeLayers (htidy : ∀ layer ∈ layers, Tidy layer)
    (htable : ∀ layer ∈ layers, HoldsTable name layer) (key : String) :
    HoldsTable name (mergeLayers layers) ∧
      value? name key (mergeLayers layers) = layers.reverse.findSome? (value? name key) := by
  induction layers using List.reverseRecOn with
  | nil => exact ⟨fun _ h => by simp [mergeLayers] at h, rfl⟩
  | append_singleton below layer ih =>
    simp only [List.mem_append, List.mem_singleton, or_imp, forall_and, forall_eq] at htidy htable
    obtain ⟨hholds, hvalue⟩ := ih htidy.1 htable.1
    rw [mergeLayers_concat]
    refine ⟨hholds.mergeLayer htidy.2 htable.2, ?_⟩
    rw [value?_mergeLayer hholds htidy.2 htable.2, hvalue, List.reverse_concat, List.findSome?_cons]
    cases value? name key layer <;> rfl

theorem lookup_mergeLayers (htidy : ∀ layer ∈ layers, Tidy layer)
    (hscalar : ∀ layer ∈ layers, HoldsScalar name layer) :
    (mergeLayers layers).lookup name = layers.reverse.findSome? (·.lookup name) := by
  induction layers using List.reverseRecOn with
  | nil => rfl
  | append_singleton below layer ih =>
    simp only [List.mem_append, List.mem_singleton, or_imp, forall_and, forall_eq] at htidy hscalar
    rw [mergeLayers_concat, lookup_mergeLayer_scalar htidy.2 hscalar.2, ih htidy.1 hscalar.1,
      List.reverse_concat, List.findSome?_cons]
    cases layer.lookup name <;> rfl

theorem merges_mergeLayers (htidy : ∀ layer ∈ layers, Tidy layer) :
    Merges layers (mergeLayers layers) where
  value key htable := (value?_mergeLayers htidy htable key).2
  kept htable hlayer hvalue := by
    rw [(value?_mergeLayers htidy htable _).2, List.findSome?_isSome_iff]
    exact ⟨_, List.mem_reverse.2 hlayer, hvalue⟩
  scalar := lookup_mergeLayers htidy

end

variable {name key : String} {lower upper explicit fromEnv : List (String × Json)}
variable {env : Environment}

/-! ## Tables merged at every depth -/

theorem deepMerge_eq : deepMerge lower upper = layOver deepValue lower upper := by
  induction upper generalizing lower with
  | nil => rw [deepMerge]; rfl
  | cons entry rest ih => rw [deepMerge, ih]; rfl

theorem KeysOnce.deepValue {below : Option Json} {value : Json} (hvalue : value.KeysOnce)
    (hbelow : ∀ value, below = some value → value.KeysOnce) : (deepValue below value).KeysOnce := by
  cases value with
  | obj upper =>
    rcases below with _ | _ | _ | _ | _ | _ | _ | lower
    case some.obj =>
      rintro _ ⟨⟩
      rw [deepMerge_eq]
      exact nodup_layOver (hbelow _ rfl lower rfl)
    all_goals exact hvalue
  | _ => exact hvalue

theorem lookup_deepMerge (h : (upper.map Prod.fst).Nodup) (name : String) :
    (deepMerge lower upper).lookup name =
      (upper.lookup name).elim (lower.lookup name) fun value =>
        some (deepValue (lower.lookup name) value) := by
  rw [deepMerge_eq, lookup_layOver h]

theorem Tidy.deepMerge (hlower : Tidy lower) (hupper : Tidy upper) : Tidy (deepMerge lower upper) where
  keys := by
    rw [deepMerge_eq]
    exact nodup_layOver hlower.keys
  tables {name value} h := by
    rw [lookup_deepMerge hupper.keys] at h
    cases hup : upper.lookup name with
    | none => exact hlower.tables (by simpa [hup] using h)
    | some given =>
      rw [hup, Option.elim_some, Option.some.injEq] at h
      exact h ▸ KeysOnce.deepValue (hupper.tables hup) fun _ => hlower.tables

theorem deepValue_none (value : Json) : deepValue none value = value := by
  cases value <;> rfl

/-- A key of a section that is given twice: explicit values are laid over the environment's. -/
theorem value?_deepMerge (hlower : HoldsTable name lower) (hupper : HoldsTable name upper)
    (htidy : Tidy upper) (key : String) :
    value? name key (deepMerge lower upper) =
      (value? name key upper).elim (value? name key lower) fun value =>
        some (deepValue (value? name key lower) value) := by
  unfold value?
  rw [lookup_deepMerge htidy.keys]
  cases hup : upper.lookup name with
  | none => rfl
  | some given =>
    obtain ⟨above, rfl⟩ := hupper given hup
    cases hlow : lower.lookup name with
    | none =>
      rw [Option.elim_some, deepValue_none]
      cases hkey : Json.get? key (.obj above) <;> simp [hkey, deepValue_none]
    | some below =>
      obtain ⟨below, rfl⟩ := hlower below hlow
      exact lookup_deepMerge (htidy.tables hup _ rfl) key

/-! ## What the environment gives -/

theorem nodup_setDeep {fields : List (String × Json)} {value : Json} {way : List String}
    (h : (fields.map Prod.fst).Nodup) : ((setDeep fields value way).map Prod.fst).Nodup := by
  unfold setDeep
  split
  · exact h
  · exact nodup_setKey h
  · split
    · exact nodup_setKey h
    · exact h
    · exact nodup_setKey h

/-- What every step of a fold keeps holds of its result. -/
theorem foldlM_keeps {ε α β : Type} (P : β → Prop) {f : β → α → Except ε β}
    (hstep : ∀ {b a b'}, P b → f b a = .ok b' → P b') {l : List α} {b b' : β}
    (hb : P b) (h : l.foldlM f b = .ok b') : P b' := by
  induction l generalizing b with
  | nil => cases h; exact hb
  | cons a rest ih =>
    rw [List.foldlM_cons] at h
    cases hf : f b a with
    | error e => rw [hf] at h; cases h
    | ok next => rw [hf] at h; exact ih (hstep hb hf) h

theorem nodup_exploded {lists : List String} {fields : List (String × Json)}
    (h : exploded env name lists = .ok fields) : (fields.map Prod.fst).Nodup := by
  refine foldlM_keeps (fun fields => (fields.map Prod.fst).Nodup)
    (fun {fields entry next} hfields hnext => ?_) List.nodup_nil h
  dsimp -zeta only at hnext
  split at hnext
  · cases hnext; exact hfields
  · extract_lets way isList at hnext
    split at hnext
    · split at hnext
      · cases hnext; exact nodup_setDeep hfields
      · cases hnext
    · cases hnext; exact nodup_setDeep hfields

theorem keysOnce_sectionValue {lists : List String} {value : Json}
    (h : sectionValue env name lists = .ok (some value)) : value.KeysOnce := by
  unfold sectionValue at h
  split at h
  · cases hfields : exploded env name lists with
    | error e => rw [hfields] at h; cases h
    | ok fields =>
      rw [hfields] at h
      simp only [Except.map, Except.ok.injEq] at h
      split at h
      · cases h
      · cases h
        rintro _ ⟨⟩
        exact nodup_exploded hfields
  · split at h
    · cases h
    · next given hread =>
      cases hfields : exploded env name lists with
      | error e => rw [hfields] at h; cases h
      | ok fields =>
        rw [hfields] at h
        cases h
        rintro _ ⟨⟩
        rw [deepMerge_eq]
        exact nodup_layOver (keysOnce_of_read? hread given rfl)
    · next hread =>
      cases h
      exact keysOnce_of_read? hread

/-- What a pass over a list keeps stands in the order of the list. -/
theorem filterMapM_keeps {ε α β γ : Type} {f : α → Except ε (Option β)} (own : α → γ)
    (name : β → γ) {P : β → Prop} (hgives : ∀ {a b}, f a = .ok (some b) → name b = own a ∧ P b)
    {l : List α} {bs : List β} (h : l.filterMapM f = .ok bs) :
    (bs.map name).Sublist (l.map own) ∧ ∀ b ∈ bs, P b := by
  induction l generalizing bs with
  | nil => cases h; simp
  | cons a rest ih =>
    rw [List.filterMapM_cons] at h
    rcases hf : f a with e | _ | b
    · rw [hf] at h; cases h
    · rw [hf] at h
      obtain ⟨hsub, hall⟩ := ih h
      exact ⟨hsub.cons _, hall⟩
    · rw [hf] at h
      cases hrest : rest.filterMapM f with
      | error e => rw [hrest] at h; cases h
      | ok more =>
        rw [hrest] at h
        cases h
        obtain ⟨hname, hb⟩ := hgives hf
        obtain ⟨hsub, hall⟩ := ih hrest
        exact ⟨by simpa [hname] using hsub, List.forall_mem_cons.2 ⟨hb, hall⟩⟩

/-- Each field of the root stands once among the three plain ones and the sections. -/
theorem tidy_fromEnvironment (h : fromEnvironment env = .ok fromEnv) : Tidy fromEnv := by
  unfold fromEnvironment at h
  extract_lets env' plain at h
  simp only [bind, Except.bind] at h
  split at h
  · cases h
  next given hgiven =>
  cases h
  obtain ⟨hsub, hgives⟩ := filterMapM_keeps Prod.fst Prod.fst (P := fun field => field.2.KeysOnce)
    (fun {entry field} h => by
      split at h
      · next value hvalue =>
        obtain ⟨json, rfl, rfl⟩ := Option.map_eq_some_iff.1 (Except.ok.inj h)
        exact ⟨rfl, keysOnce_sectionValue hvalue⟩
      · cases h) hgiven
  have hplain : (plain.map Prod.fst).Sublist ["env", "project_root", "debug"] := by
    have hfilter : plain.map Prod.fst = ["env", "project_root", "debug"].filter fun name =>
        (env'.lookup ("pagerun_" ++ name)).isSome := by
      rw [← List.filterMap_eq_filter, List.map_filterMap]
      congr 1
      funext name
      cases h : env'.lookup ("pagerun_" ++ name) <;> simp [Option.guard, h]
    exact hfilter ▸ List.filter_sublist
  refine .of_entries ?_ fun field hfield => ?_
  · rw [List.map_append]
    exact (hplain.append hsub).nodup (by decide)
  · rcases List.mem_append.1 hfield with hin | hin
    · obtain ⟨_, _, heq⟩ := List.mem_filterMap.1 hin
      obtain ⟨_, _, heq⟩ := Option.map_eq_some_iff.1 heq
      cases heq
      rintro _ ⟨⟩
    · exact hgives _ hin

/-! ## What is checked -/

/-- What is checked are the merged fields of the four layers. In the highest of them explicit
values are laid over those of the environment. -/
theorem load_merges {file : String → List (String × Json)} (hfiles : ∀ name, Tidy (file name))
    (hexplicit : Tidy explicit) (henv : fromEnvironment env = .ok fromEnv)
    (hname : layerName env (deepMerge fromEnv explicit) = .ok name) :
    ∃ merged,
      load file env explicit = resolvePaths <$> (decode env merged).toResult ∧
      Merges [file "default", file name, file "local", deepMerge fromEnv explicit] merged ∧
      ∀ {name key}, HoldsTable name fromEnv → HoldsTable name explicit →
        value? name key (deepMerge fromEnv explicit) =
          (value? name key explicit).elim (value? name key fromEnv) fun value =>
            some (deepValue (value? name key fromEnv) value) := by
  have htidy := tidy_fromEnvironment henv
  refine ⟨_, ?_, merges_mergeLayers ?_, fun hlower hupper => value?_deepMerge hlower hupper hexplicit _⟩
  · unfold load
    rw [henv]
    simp only [pure_bind]
    rw [hname]
    rfl
  · simp only [List.forall_mem_cons, List.not_mem_nil, false_imp_iff, implies_true, and_true]
    exact ⟨hfiles _, hfiles _, hfiles _, htidy.deepMerge hexplicit⟩

def sampleFiles : String → List (String × Json)
  | "default" => [("debug", true), ("browser", .obj [("headless", true), ("profile_dir", "profile"),
      ("viewport_width", .int 1920)])]
  | "test" => [("browser", .obj [("profile_dir", "shots"), ("channel", "stable")])]
  | "local" => [("runner", .obj [("max_batch_size", .int 3)]), ("debug", false)]
  | _ => []

def sampleVariables : Environment :=
  [("PAGERUN_ENV", "test"), ("PAGERUN_BROWSER__HEADLESS", "0"), ("PAGERUN_BROWSER__CHANNEL", "dev")]

def sampleExplicit : List (String × Json) := [("browser", .obj [("channel", "beta")])]

theorem tidy_sampleFiles (name : String) : Tidy (sampleFiles name) := by
  unfold sampleFiles
  split <;> refine .of_entries (by decide) fun entry hentry fields hfields => ?_ <;> grind

/-- Every layer sets other keys of one section. -/
theorem load_merges_sample :
    (∀ name, Tidy (sampleFiles name)) ∧ Tidy sampleExplicit ∧
    ∃ fromEnv, fromEnvironment sampleVariables = .ok fromEnv ∧
    layerName sampleVariables (deepMerge fromEnv sampleExplicit) = .ok "test" ∧
    ∃ merged,
      load sampleFiles sampleVariables sampleExplicit =
        resolvePaths <$> (decode sampleVariables merged).toResult ∧
      value? "browser" "viewport_width" merged = some (.int 1920) ∧
      value? "browser" "profile_dir" merged = some (.str "shots") ∧
      value? "browser" "headless" merged = some (.str "0") ∧
      value? "browser" "channel" merged = some (.str "beta") ∧
      merged.lookup "debug" = some (.bool false) := by
  have hexplicit : Tidy sampleExplicit := by
    refine .of_entries (by decide) fun entry hentry fields hfields => ?_
    simp only [sampleExplicit, List.mem_cons, List.not_mem_nil, or_false] at hentry
    grind
  have henv : fromEnvironment sampleVariables =
      .ok [("env", "test"), ("browser", .obj [("headless", "0"), ("channel", "dev")])] := by
    rfl
  have hname : layerName sampleVariables
      (deepMerge [("env", "test"), ("browser", .obj [("headless", "0"), ("channel", "dev")])]
        sampleExplicit) = .ok "test" := by
    rfl
  obtain ⟨merged, hload, hmerges, -⟩ := load_merges tidy_sampleFiles hexplicit henv hname
  have htables : ∀ layer ∈ [sampleFiles "default", sampleFiles "test", sampleFiles "local",
      deepMerge [("env", "test"), ("browser", .obj [("headless", "0"), ("channel", "dev")])]
        sampleExplicit], HoldsTable "browser" layer := by
    simp only [List.forall_mem_cons, List.not_mem_nil, false_imp_iff, implies_true, and_true]
    refine ⟨?_, ?_, ?_, ?_⟩ <;> rintro value ⟨⟩
    all_goals exact ⟨_, rfl⟩
  have hscalars : ∀ layer ∈ [sampleFiles "default", sampleFiles "test", sampleFiles "local",
      deepMerge [("env", "test"), ("browser", .obj [("headless", "0"), ("channel", "dev")])]
        sampleExplicit], HoldsScalar "debug" layer := by
    simp only [List.forall_mem_cons, List.not_mem_nil, false_imp_iff, implies_true, and_true]
    refine ⟨?_, ?_, ?_, ?_⟩ <;> rintro fields ⟨⟩
  refine ⟨tidy_sampleFiles, hexplicit, _, henv, hname, merged, hload, ?_, ?_, ?_, ?_, ?_⟩
  · exact hmerges.value _ htables
  · exact hmerges.value _ htables
  · exact hmerges.value _ htables
  · exact hmerges.value _ htables
  · exact hmerges.scalar hscalars

end Pageflow.Settings
