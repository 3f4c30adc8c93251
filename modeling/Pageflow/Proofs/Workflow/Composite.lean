import Pageflow.Proofs.Text.Filling
import Pageflow.Proofs.Workflow.Results

/-! What a composite extraction leaves. Its template is filled source after source, so a text that
came from the page is searched again for the placeholders of the sources after it. -/
namespace Pageflow.Runner

open Browser Program

/-- The text that stands for a source. -/
def sourceText (r : Runner) : Extraction → String
  | .value text => text
  | .miss _ => r.settings.runner.compositeMissingValue

/-- The placeholder of a source and what is put in for it. -/
def slot (r : Runner) (source : Source) (found : Extraction) : Text.Slot :=
  ⟨(sourceMark source.name).toList, (r.sourceText found).toList⟩

def slots (r : Runner) (sources : List Source) (found : List Extraction) : List Text.Slot :=
  List.zipWith r.slot sources found

/-- From `x` on to `y` the sources are extracted one after the other and yield `found`. -/
inductive Collects {W : Type} (r : Runner) (run : Run) (env : Responses State Ask Ask.Reply W) :
    W × State → List Source → List Ask → List Extraction → W × State → Prop where
  | nil (x : W × State) : Collects r run env x [] [] [] x
  | cons {x y z : W × State} {source : Source} {sources : List Source} {first rest : List Ask}
    {extraction : Extraction} {found : List Extraction}
    (hextract : (r.extract run source.selector).Runs env x first (.ok extraction) y)
    (hrest : Collects r run env y sources rest found z) :
    Collects r run env x (source :: sources) (first ++ rest) (extraction :: found) z

section

variable {W : Type} {r : Runner} {run : Run} {env : Responses State Ask Ask.Reply W}
  {x y : W × State} {calls : List Ask} {sources : List Source} {found : List Extraction}
  {g : Gathered}

theorem toList_sourceMark (name : String) :
    (sourceMark name).toList = '$' :: '\x7b' :: (name.toList ++ ['\x7d']) := by
  simp [sourceMark]

theorem leads_sourceMark {name : String} (hname : '$' ∉ name.toList) :
    Text.Leads '$' (sourceMark name).toList :=
  ⟨_, toList_sourceMark name, by simpa using hname⟩

theorem sourceMark_isPrefix {name other : String} (hother : '\x7d' ∉ other.toList)
    (h : (sourceMark name).toList <+: (sourceMark other).toList) : name = other := by
  rw [toList_sourceMark, toList_sourceMark, List.cons_prefix_cons, List.cons_prefix_cons] at h
  obtain hsame | hinside := List.prefix_concat_iff.mp h.2.2
  · exact String.toList_injective (List.append_cancel_right hsame)
  · exact absurd (hinside.subset (by simp)) hother

theorem exists_source_of_mem_slots {s : Text.Slot} (hs : s ∈ r.slots sources found) :
    ∃ source ∈ sources, s.mark = (sourceMark source.name).toList := by
  obtain ⟨n, hn, rfl⟩ := List.mem_iff_getElem.mp hs
  simp only [slots, List.getElem_zipWith]
  exact ⟨_, List.getElem_mem _, rfl⟩

/-- Placeholders of different sources cannot overlap. -/
theorem apart_slots (hnames : (sources.map Source.name).Nodup)
    (hplain : ∀ s ∈ sources, '$' ∉ s.name.toList ∧ '\x7d' ∉ s.name.toList)
    (found : List Extraction) : Text.Apart '$' (r.slots sources found) := by
  constructor
  case leads =>
    intro s hs
    obtain ⟨source, hsource, hmark⟩ := exists_source_of_mem_slots hs
    exact hmark ▸ leads_sourceMark (hplain source hsource).1
  case clears =>
    induction sources generalizing found with
    | nil => exact .nil
    | cons source sources ih =>
      cases found with
      | nil => exact .nil
      | cons extraction found =>
        rw [List.map_cons, List.nodup_cons] at hnames
        obtain ⟨hhead, hplain⟩ := List.forall_mem_cons.mp hplain
        refine .cons (fun t ht => ?_) (ih hnames.2 hplain found)
        obtain ⟨other, hother, hmark⟩ := exists_source_of_mem_slots ht
        have hne : source.name ≠ other.name :=
          fun heq => hnames.1 (heq ▸ List.mem_map_of_mem hother)
        constructor
        · rw [hmark]
          exact fun h => hne (sourceMark_isPrefix (hplain other hother).2 h)
        · rw [hmark]
          exact fun h => hne (sourceMark_isPrefix hhead.2 h).symm

theorem replace_slot (text : String) (source : Source) (extraction : Extraction) :
    Text.replace text (sourceMark source.name) (r.sourceText extraction) = String.ofList
      (Text.fillInTurn [r.slot source extraction] text.toList) := by
  unfold Text.replace
  rw [if_neg]
  · rfl
  · simp [String.isEmpty_iff, ← String.toList_inj, toList_sourceMark]

/-- Each source is filled in what the sources before it left. -/
theorem fillSources_runs (h : Collects r run env x sources calls found y) (text : String) :
    ∃ misses, (r.fillSources run sources text).Runs env x calls
      (.ok (String.ofList (Text.fillInTurn (r.slots sources found) text.toList), misses)) y := by
  induction h generalizing text with
  | nil x => exact ⟨[], runs_done.mpr ⟨rfl, by simp [slots, Text.fillInTurn], rfl⟩⟩
  | @cons x y z source sources first rest extraction found hextract hrest ih =>
    have hnext : Text.fillInTurn (r.slots (source :: sources) (extraction :: found)) text.toList =
        Text.fillInTurn (r.slots sources found)
          (Text.replace text (sourceMark source.name) (r.sourceText extraction)).toList := by
      rw [replace_slot, String.toList_ofList]
      rfl
    obtain ⟨misses, hfill⟩ :=
      ih (Text.replace text (sourceMark source.name) (r.sourceText extraction))
    rw [← hnext] at hfill
    cases extraction with
    | value text' =>
      rw [sourceText] at hfill
      exact ⟨misses, runs_bind_ok.mpr ⟨_, first, rest, y, rfl, hextract, hfill⟩⟩
    | miss reason =>
      rw [sourceText] at hfill
      refine ⟨_, runs_bind_ok.mpr ⟨_, first, rest, y, rfl, hextract,
        runs_bind_ok.mpr ⟨_, rest, [], z, by simp, hfill, runs_done.mpr ⟨rfl, rfl, rfl⟩⟩⟩⟩

theorem compositeExtract_runs (h : Collects r run env x sources calls found y) (index : Nat)
    (description template dataName : String) (g : Gathered) :
    ∃ outcome, outcome.failure? = none ∧
      (r.performStep run index ⟨description, .compositeExtract template sources dataName⟩ g).Runs
        env x calls (.ok (outcome, g.setData dataName
          (String.ofList (Text.fillInTurn (r.slots sources found) template.toList)))) y := by
  obtain ⟨misses, hfill⟩ := fillSources_runs h template
  refine ⟨if misses.isEmpty then .ok dataName
    else .recovered (dataName ++ ": missing " ++ ", ".intercalate misses), ?_, ?_⟩
  · split <;> rfl
  · exact runs_rescueIf_ok.mpr (.inl (runs_bind_ok.mpr
      ⟨_, calls, [], y, by simp, hfill, runs_done.mpr ⟨rfl, rfl, rfl⟩⟩))

/-- A composite extraction stores its template filled source after source. That is, after every
source, what one pass over the template gives exactly if no source meets its own placeholder
where the template does not have it. One pass does not depend on the order of the sources, so
neither does the stored text as long as no order lets a placeholder be forged. -/
theorem compositeExtract_fills (hnames : (sources.map Source.name).Nodup)
    (hplain : ∀ s ∈ sources, '$' ∉ s.name.toList ∧ '\x7d' ∉ s.name.toList)
    (hfound : Collects r run env x sources calls found y) (index : Nat)
    (description template dataName : String) (g : Gathered) :
    (∃ outcome, outcome.failure? = none ∧
      (r.performStep run index ⟨description, .compositeExtract template sources dataName⟩ g).Runs
        env x calls (.ok (outcome, g.setData dataName
          (String.ofList (Text.fillInTurn (r.slots sources found) template.toList)))) y) ∧
      ((∀ n, Text.fillInTurn ((r.slots sources found).take n) template.toList =
          Text.fill ((r.slots sources found).take n) template.toList) ↔
        Text.Unforged (r.slots sources found) template.toList) ∧
      ∀ slots' : List Text.Slot, slots'.Perm (r.slots sources found) →
        Text.fill slots' template.toList = Text.fill (r.slots sources found) template.toList ∧
        (Text.Unforged slots' template.toList →
          Text.fillInTurn slots' template.toList =
            Text.fill (r.slots sources found) template.toList) := by
  have hapart := apart_slots (r := r) hnames hplain found
  refine ⟨compositeExtract_runs hfound index description template dataName g,
    Text.fillInTurn_eq_fill_iff hapart _, fun slots' hperm => ?_⟩
  have hfill := Text.fill_perm hapart hperm template.toList
  refine ⟨hfill, fun hunforged => ?_⟩
  have hturn := (Text.fillInTurn_eq_fill_iff (hapart.perm hperm) _).mpr hunforged slots'.length
  rwa [List.take_length, hfill] at hturn

end

/-! ## Two sources -/

/-- Answers of a browser that shows `a` and `b` in two elements. -/
def showing (a b : String) : Responses State Ask Ask.Reply Unit := fun q x =>
  (match q with
    | .element element .textContent => .ok ([(".a", a), (".b", b)].lookup element.selector)
    | q => obliging false q, x)

def pairRun : Run := ⟨"t", ⟨0⟩, 1⟩

def pairOfSources : List Source := [⟨"a", ".a"⟩, ⟨"b", ".b"⟩]

def pairTemplate : String := "$\x7ba\x7d, $\x7bb\x7d"

theorem pair_stores {a b text : String} {sources : List Source} {calls : List Ask}
    {found : List Extraction} {y : Unit × State}
    (hfound : Collects pagedRunner pairRun (showing a b) ((), {}) sources calls found y)
    (hfill : String.ofList (Text.fillInTurn (pagedRunner.slots sources found) pairTemplate.toList) =
      text) :
    ∃ outcome, (pagedRunner.performStep pairRun 0
        ⟨"", .compositeExtract pairTemplate sources "out"⟩ {}).Runs (showing a b) ((), {}) calls
      (.ok (outcome, { data := [("out", text)] })) y := by
  obtain ⟨outcome, -, hruns⟩ := compositeExtract_runs hfound 0 "" pairTemplate "out" {}
  rw [hfill] at hruns
  exact ⟨outcome, hruns⟩

/-- What looks like the placeholder of no source is left as it came from the page. -/
theorem compositeExtract_fills_pair :
    (pairOfSources.map Source.name).Nodup ∧
      (∀ s ∈ pairOfSources, '$' ∉ s.name.toList ∧ '\x7d' ∉ s.name.toList) ∧
      ∃ calls found y, Collects pagedRunner pairRun (showing "$\x7bc\x7d" "2") ((), {})
          pairOfSources calls found y ∧
        Text.Unforged (pagedRunner.slots pairOfSources found) pairTemplate.toList ∧
        ∃ outcome, (pagedRunner.performStep pairRun 0
            ⟨"", .compositeExtract pairTemplate pairOfSources "out"⟩ {}).Runs
          (showing "$\x7bc\x7d" "2") ((), {}) calls
          (.ok (outcome, { data := [("out", "$\x7bc\x7d, 2")] })) y := by
  have hnames : (pairOfSources.map Source.name).Nodup := by decide
  have hplain : ∀ s ∈ pairOfSources, '$' ∉ s.name.toList ∧ '\x7d' ∉ s.name.toList := by decide
  have hfound : Collects pagedRunner pairRun (showing "$\x7bc\x7d" "2") ((), {}) pairOfSources _
      [.value "$\x7bc\x7d", .value "2"] _ :=
    .cons ⟨rfl, rfl⟩ (.cons ⟨rfl, rfl⟩ (.nil _))
  obtain ⟨⟨outcome, -, hruns⟩, -, -⟩ :=
    compositeExtract_fills hnames hplain hfound 0 "" pairTemplate "out" {}
  have hstored : Gathered.setData {} "out" (String.ofList (Text.fillInTurn (pagedRunner.slots
      pairOfSources [.value "$\x7bc\x7d", .value "2"]) pairTemplate.toList)) =
      { data := [("out", "$\x7bc\x7d, 2")] } := by decide +kernel
  rw [hstored] at hruns
  exact ⟨hnames, hplain, _, _, _, hfound, by decide +kernel, outcome, hruns⟩

/-- The page shows the placeholder of the second source for the first one. The second source is
put in for it, which one pass does not do, and neither does the other order of the sources. -/
theorem compositeExtract_not_simultaneous :
    let found : List Extraction := [.value "$\x7bb\x7d", .value "2"]
    (pairOfSources.map Source.name).Nodup ∧
      (∀ s ∈ pairOfSources,
        '$' ∉ s.name.toList ∧ '\x7b' ∉ s.name.toList ∧ '\x7d' ∉ s.name.toList) ∧
      (∃ calls y, Collects pagedRunner pairRun (showing "$\x7bb\x7d" "2") ((), {})
          pairOfSources calls found y ∧
        ∃ outcome, (pagedRunner.performStep pairRun 0
            ⟨"", .compositeExtract pairTemplate pairOfSources "out"⟩ {}).Runs
          (showing "$\x7bb\x7d" "2") ((), {}) calls
          (.ok (outcome, { data := [("out", "2, 2")] })) y) ∧
      String.ofList (Text.fill (pagedRunner.slots pairOfSources found) pairTemplate.toList) =
        "$\x7bb\x7d, 2" ∧
      ∃ calls y, Collects pagedRunner pairRun (showing "$\x7bb\x7d" "2") ((), {})
          pairOfSources.reverse calls found.reverse y ∧
        ∃ outcome, (pagedRunner.performStep pairRun 0
            ⟨"", .compositeExtract pairTemplate pairOfSources.reverse "out"⟩ {}).Runs
          (showing "$\x7bb\x7d" "2") ((), {}) calls
          (.ok (outcome, { data := [("out", "$\x7bb\x7d, 2")] })) y := by
  have hfound : Collects pagedRunner pairRun (showing "$\x7bb\x7d" "2") ((), {}) pairOfSources _
      [.value "$\x7bb\x7d", .value "2"] _ :=
    .cons ⟨rfl, rfl⟩ (.cons ⟨rfl, rfl⟩ (.nil _))
  have hreversed : Collects pagedRunner pairRun (showing "$\x7bb\x7d" "2") ((), {})
      pairOfSources.reverse _ [.value "2", .value "$\x7bb\x7d"] _ :=
    .cons ⟨rfl, rfl⟩ (.cons ⟨rfl, rfl⟩ (.nil _))
  exact ⟨by decide, by decide, ⟨_, _, hfound, pair_stores hfound (by decide +kernel)⟩,
    by decide +kernel, _, _, hreversed, pair_stores hreversed (by decide +kernel)⟩

end Pageflow.Runner
