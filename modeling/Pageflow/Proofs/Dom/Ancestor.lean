import Pageflow.Proofs.Dom.Normal

/-! Reading a text near an anchor from the elements around it. For an anchor inside the body the
search stops at the body. But the body contains whatever an element in it contains, so it is an
anchor as well, and from there the search goes on to the root and finds matches anywhere. -/
namespace Pageflow.Dom

/-- Whether an element is inside the body. -/
def Spot.isInside (s : Spot) : Bool := 2 ≤ s.above.length

/-- No element inside `s` fits a selector. -/
def Spot.Lacks (s : Spot) (sel : Selector) : Prop := ∀ t ∈ s.descendants, sel.matches t = false

theorem Selector.firstIn?_eq_none_iff {sel : Selector} {s : Spot} :
    sel.firstIn? s = none ↔ s.Lacks sel := by
  simp [Selector.firstIn?, List.find?_eq_none, Spot.Lacks]

theorem Selector.firstIn?_eq_some_iff {sel : Selector} {s t : Spot} :
    sel.firstIn? s = some t ↔ sel.matches t = true ∧ ∃ skipped rest,
      s.descendants = skipped ++ t :: rest ∧ ∀ t' ∈ skipped, sel.matches t' = false := by
  simp [Selector.firstIn?, List.find?_eq_some_iff_append]

namespace Document

variable (d : Document) (anchor : String) (sel : Selector)

def html : Spot := ⟨⟨.plain "html", [.element (.plain "body") d.content], []⟩, []⟩

def body : Spot := ⟨⟨.plain "body", d.content, []⟩, [d.html.here]⟩

theorem spots_eq : d.spots = d.html :: d.body :: d.body.descendants := by
  simp [spots, root, Node.spots, spotsIn, html, body, Spot.descendants]

/-- From the anchor `s` a search that never leaves the body comes to `t`. -/
structure Leads (s a t : Spot) : Prop where
  /-- `s` is the last anchor with an element around it, inside the body, that has a match. -/
  last : ∃ before after, d.anchors anchor = before ++ s :: after ∧
    ∀ s' ∈ after, ∀ a' ∈ s'.ancestors, a'.isInside = true → a'.Lacks sel
  /-- `a` is the nearest of these elements around `s`. -/
  nearest : a.isInside = true ∧ ∃ near far, s.ancestors = near ++ a :: far ∧
    ∀ a' ∈ near, a'.isInside = true → a'.Lacks sel
  /-- `t` is the first match in it. -/
  first : sel.matches t = true ∧ ∃ skipped rest, a.descendants = skipped ++ t :: rest ∧
    ∀ t' ∈ skipped, sel.matches t' = false

/-- The first match in an element inside the body. -/
def insideIn? (a : Spot) : Option Spot := if a.isInside then sel.firstIn? a else none

/-- Where a search that never leaves the body comes to. -/
def inside? : Option Spot :=
  (d.anchors anchor).reverse.findSome? fun s => s.ancestors.findSome? (insideIn? sel)

variable {d anchor sel}

theorem insideIn?_eq_none_iff {a : Spot} :
    insideIn? sel a = none ↔ (a.isInside = true → a.Lacks sel) := by
  unfold insideIn?
  split
  · rename_i hinside
    simp [Selector.firstIn?_eq_none_iff, hinside]
  · rename_i houtside
    simp [houtside]

theorem insideIn?_eq_some_iff {a t : Spot} :
    insideIn? sel a = some t ↔ a.isInside = true ∧ sel.firstIn? a = some t := by
  unfold insideIn?
  split <;> simp_all

theorem inside?_eq_some_iff {t : Spot} :
    d.inside? anchor sel = some t ↔ ∃ s a, d.Leads anchor sel s a t := by
  unfold inside?
  rw [List.findSome?_eq_some_iff]
  constructor
  · rintro ⟨after, s, before, hanchors, hfound, hlater⟩
    obtain ⟨near, a, far, haround, hmatch, hnearer⟩ := List.findSome?_eq_some_iff.mp hfound
    obtain ⟨hinside, hfirst⟩ := insideIn?_eq_some_iff.mp hmatch
    refine ⟨s, a, ⟨before.reverse, after.reverse, ?_, ?_⟩, ⟨hinside, near, far, haround, ?_⟩,
      Selector.firstIn?_eq_some_iff.mp hfirst⟩
    · simpa using congrArg List.reverse hanchors
    · intro s' hs' a' ha'
      have hnone := hlater s' (List.mem_reverse.mp hs')
      exact insideIn?_eq_none_iff.mp (List.findSome?_eq_none_iff.mp hnone a' ha')
    · exact fun a' ha' => insideIn?_eq_none_iff.mp (hnearer a' ha')
  · rintro ⟨s, a, ⟨before, after, hanchors, hlater⟩, ⟨hinside, near, far, haround, hnearer⟩, hfirst⟩
    refine ⟨after.reverse, s, before.reverse, by simp [hanchors], ?_, ?_⟩
    · refine List.findSome?_eq_some_iff.mpr ⟨near, a, far, haround, ?_, ?_⟩
      · exact insideIn?_eq_some_iff.mpr ⟨hinside, Selector.firstIn?_eq_some_iff.mpr hfirst⟩
      · exact fun a' ha' => insideIn?_eq_none_iff.mpr (hnearer a' ha')
    · intro s' hs'
      refine List.findSome?_eq_none_iff.mpr fun a' ha' => ?_
      exact insideIn?_eq_none_iff.mpr (hlater s' (List.mem_reverse.mp hs') a' ha')

theorem inside?_eq_none_iff :
    d.inside? anchor sel = none ↔ ¬ ∃ s a t, d.Leads anchor sel s a t := by
  rw [Option.eq_none_iff_forall_ne_some]
  constructor
  · rintro hnone ⟨s, a, t, hleads⟩
    exact hnone t (inside?_eq_some_iff.mpr ⟨s, a, hleads⟩)
  · intro hnone t hsome
    obtain ⟨s, a, hleads⟩ := inside?_eq_some_iff.mp hsome
    exact hnone ⟨s, a, t, hleads⟩

/-! ## The search as it is -/

/-- An anchor anywhere makes the root and the body anchors. -/
theorem anchors_eq (h : d.anchors anchor ≠ []) : d.anchors anchor =
    d.html :: d.body :: d.body.descendants.filter (Spot.contains anchor) := by
  have hbody : d.body.contains anchor = true := by
    obtain ⟨s, hs⟩ := List.exists_mem_of_ne_nil _ h
    obtain ⟨hspot, hcontains⟩ := List.mem_filter.mp hs
    rw [spots_eq] at hspot
    rcases List.mem_cons.mp hspot with rfl | hspot
    · refine Spot.contains_of_isInfix ?_ hcontains
      simp [html, body, Frame.chars, charsOf, Node.chars]
    rcases List.mem_cons.mp hspot with rfl | hinside
    · exact hcontains
    · obtain ⟨-, -, -, hchars⟩ := nested_of_mem_spotsIn _ hinside
      exact Spot.contains_of_isInfix hchars hcontains
  have hspot : d.body ∈ d.spots := by simp [spots_eq]
  have hhtml : d.html.contains anchor = true :=
    Node.contains_of_mem_ancestors hspot List.mem_cons_self hbody
  unfold anchors
  rw [spots_eq, List.filter_cons_of_pos hhtml, List.filter_cons_of_pos hbody]

/-- The elements around one inside the body are searched up to the body. -/
theorem findSome?_enclosing {s : Spot} (h : s ∈ d.body.descendants) :
    s.enclosing.findSome? sel.firstIn? = s.ancestors.findSome? (insideIn? sel) := by
  obtain ⟨between, habove, -, -⟩ := nested_of_mem_spotsIn _ h
  unfold Spot.enclosing Spot.ancestors
  rw [habove]
  clear habove
  induction between with
  | nil => simp [Spot.ancestorsOf, body, Spot.isBody, insideIn?, Spot.isInside]
  | cons f between ih =>
    have hout : Spot.isBody ⟨f, between ++ d.body.here :: d.body.above⟩ = false := by
      simp [Spot.isBody, body]
    have hinside : insideIn? sel ⟨f, between ++ d.body.here :: d.body.above⟩ =
        sel.firstIn? ⟨f, between ++ d.body.here :: d.body.above⟩ :=
      if_pos (by simp [Spot.isInside, body])
    rw [List.cons_append, Spot.ancestorsOf, List.takeWhile_cons_of_pos (by simp [hout]),
      List.findSome?_cons, List.findSome?_cons, hinside, ih]

theorem findSome?_flatMap {α β γ : Type} (f : α → List β) (g : β → Option γ) (l : List α) :
    (l.flatMap f).findSome? g = l.findSome? fun a => (f a).findSome? g := by
  induction l with
  | nil => rfl
  | cons a l ih =>
    rw [List.flatMap_cons, List.findSome?_append, List.findSome?_cons, ih]
    cases (f a).findSome? g <;> rfl

theorem findSome?_congr {α β : Type} {f g : α → Option β} {l : List α}
    (h : ∀ a ∈ l, f a = g a) : l.findSome? f = l.findSome? g := by
  induction l with
  | nil => rfl
  | cons a l ih =>
    obtain ⟨ha, hl⟩ := List.forall_mem_cons.mp h
    rw [List.findSome?_cons, List.findSome?_cons, ha, ih hl]

/-- What is searched: for each anchor inside the body the elements around it up to the body, the
last anchor first, and then, for the body itself, the root. -/
theorem searched_eq (h : d.anchors anchor ≠ []) :
    (d.anchors anchor).reverse.flatMap Spot.enclosing =
      (d.body.descendants.filter (Spot.contains anchor)).reverse.flatMap Spot.enclosing ++
        [d.html] := by
  rw [anchors_eq h]
  simp [Spot.enclosing, Spot.ancestors, Spot.ancestorsOf, body, html, Spot.isBody]

theorem inside?_eq (h : d.anchors anchor ≠ []) : d.inside? anchor sel =
    ((d.body.descendants.filter (Spot.contains anchor)).reverse.flatMap
      Spot.enclosing).findSome? sel.firstIn? := by
  have hinner : ∀ s ∈ (d.body.descendants.filter (Spot.contains anchor)).reverse,
      s.ancestors.findSome? (insideIn? sel) = s.enclosing.findSome? sel.firstIn? := by
    intro s hs
    exact (findSome?_enclosing (List.mem_filter.mp (List.mem_reverse.mp hs)).1).symm
  have houter : [d.body, d.html].findSome? (fun s => s.ancestors.findSome? (insideIn? sel)) =
      none := by
    simp [Spot.ancestors, Spot.ancestorsOf, body, html, insideIn?, Spot.isInside]
  unfold inside?
  rw [anchors_eq h, List.reverse_cons, List.reverse_cons, List.append_assoc, List.singleton_append,
    List.findSome?_append, houter, Option.or_none, findSome?_flatMap]
  exact findSome?_congr hinner

/-- Where the search comes to: inside the body if it finds a match there, and else to the first
match of all. -/
theorem readAncestor_eq {child : String} (hfound : d.anchors anchor ≠ [])
    (hchild : Selector.parse? child = some sel) :
    d.readAncestor anchor child = match (d.inside? anchor sel).or (sel.firstIn? d.html) with
      | some t => .ok t.trimmedText
      | none => .error .ancestor := by
  have hsearch : ((d.anchors anchor).reverse.flatMap Spot.enclosing).findSome? sel.firstIn? =
      (d.inside? anchor sel).or (sel.firstIn? d.html) := by
    rw [searched_eq hfound, List.findSome?_append, ← inside?_eq hfound, List.findSome?_singleton]
  unfold readAncestor
  split
  · rename_i hnone
    exact absurd hnone hfound
  · split
    · rename_i hempty
      simp [searched_eq hfound] at hempty
    · rw [hchild]
      cases hfirst : (d.inside? anchor sel).or (sel.firstIn? d.html) with
      | none => simp only [hsearch, hfirst]
      | some t => simp only [hsearch, hfirst]

/-- What a reading answers if the search never leaves the body. -/
structure StaysInside (d : Document) (anchor child : String) (sel : Selector) : Prop where
  found : ∀ text, (d.readAncestor anchor child).toJson = .obj [("value", .str text)] ↔
    ∃ s a t, d.Leads anchor sel s a t ∧ text = t.trimmedText
  missed : (¬ ∃ s a t, d.Leads anchor sel s a t) → (d.readAncestor anchor child).toJson =
    .obj [("error", .str "no ancestor contains the child selector")]

theorem StaysInside.of_leads {child : String} {s a t : Spot} (h : d.Leads anchor sel s a t)
    (hread : d.readAncestor anchor child = .ok t.trimmedText) :
    d.StaysInside anchor child sel where
  found text := by
    have hfound := inside?_eq_some_iff.mpr ⟨s, a, h⟩
    rw [hread]
    constructor
    · intro htext
      obtain rfl : t.trimmedText = text := by simpa [Reading.toJson] using htext
      exact ⟨s, a, t, h, rfl⟩
    · rintro ⟨s', a', t', h', rfl⟩
      obtain rfl : t = t' :=
        Option.some.inj (hfound.symm.trans (inside?_eq_some_iff.mpr ⟨s', a', h'⟩))
      rfl
  missed hnone := absurd ⟨s, a, t, h⟩ hnone

theorem StaysInside.of_miss {child : String} (h : ¬ ∃ s a t, d.Leads anchor sel s a t)
    (hread : d.readAncestor anchor child = .error .ancestor) :
    d.StaysInside anchor child sel where
  found text := by
    rw [hread]
    refine iff_of_false (by simp [Reading.toJson]) ?_
    rintro ⟨s, a, t, hleads, -⟩
    exact h ⟨s, a, t, hleads⟩
  missed _ := by
    rw [hread]
    rfl

/-- For an anchor that is found and a selector that is valid the search stays inside the body
exactly if it finds a match there, or if nothing matches in the whole document. Otherwise it reads
the first match of the document. -/
theorem staysInside_iff {child : String} (hfound : d.anchors anchor ≠ [])
    (hchild : Selector.parse? child = some sel) :
    (d.StaysInside anchor child sel ↔
      (∃ s a t, d.Leads anchor sel s a t) ∨ d.html.Lacks sel) ∧
    ((¬ ∃ s a t, d.Leads anchor sel s a t) → ∀ t, sel.firstIn? d.html = some t →
      d.readAncestor anchor child = .ok t.trimmedText) := by
  have hread := readAncestor_eq hfound hchild
  cases hinside : d.inside? anchor sel with
  | some t =>
    obtain ⟨s, a, hleads⟩ := inside?_eq_some_iff.mp hinside
    rw [hinside] at hread
    exact ⟨iff_of_true (.of_leads hleads hread) (.inl ⟨s, a, t, hleads⟩),
      fun hnone => absurd ⟨s, a, t, hleads⟩ hnone⟩
  | none =>
    have hnone := inside?_eq_none_iff.mp hinside
    rw [hinside, Option.none_or] at hread
    rw [or_iff_right hnone, ← Selector.firstIn?_eq_none_iff]
    cases hhtml : sel.firstIn? d.html with
    | none =>
      rw [hhtml] at hread
      exact ⟨iff_of_true (.of_miss hnone hread) rfl, nofun⟩
    | some t =>
      rw [hhtml] at hread
      refine ⟨iff_of_false (fun hstays => ?_) (by simp), ?_⟩
      · have hmissed := hstays.missed hnone
        rw [hread] at hmissed
        simp [Reading.toJson] at hmissed
      · rintro - t' ht'
        rw [hread, Option.some.inj ht']

/-- A count, and after it a list with an entry that holds the anchor and another count. -/
def nestedCounts : Document :=
  ⟨[.element (.plain "b") [.text "9"],
    .element (.plain "ul") [.element (.plain "li")
      [.element (.plain "p") [.text " Total\n views "], .element (.plain "b") [.text "7"]]]]⟩

theorem staysInside_iff_nested :
    nestedCounts.anchors "Total views" ≠ [] ∧
    Selector.parse? "b" = some [⟨[.tag "b"], []⟩] ∧
    nestedCounts.readAncestor "Total views" "b" = .ok "7" ∧
    nestedCounts.StaysInside "Total views" "b" [⟨[.tag "b"], []⟩] := by
  have hanchors : nestedCounts.anchors "Total views" ≠ [] :=
    List.isEmpty_eq_false_iff.mp (by decide +kernel)
  have hchild : Selector.parse? "b" = some [⟨[.tag "b"], []⟩] := by decide +kernel
  have hinside : (nestedCounts.inside? "Total views" [⟨[.tag "b"], []⟩]).isSome := by
    decide +kernel
  obtain ⟨t, ht⟩ := Option.isSome_iff_exists.mp hinside
  obtain ⟨s, a, hleads⟩ := inside?_eq_some_iff.mp ht
  exact ⟨hanchors, hchild, by decide +kernel,
    (staysInside_iff hanchors hchild).1.mpr (.inl ⟨s, a, t, hleads⟩)⟩

/-- A heading and a count beside it, both right below the body. -/
def flatCounts : Document :=
  ⟨[.element (.plain "p") [.text "Views"], .element (.plain "b") [.text " 7 "]]⟩

/-- No element inside the body holds the count, yet it is read. -/
theorem flatCounts_not_staysInside :
    Selector.parse? "b" = some [⟨[.tag "b"], []⟩] ∧
    flatCounts.readAncestor "Views" "b" = .ok "7" ∧
    (¬ ∃ s a t, flatCounts.Leads "Views" [⟨[.tag "b"], []⟩] s a t) ∧
    ¬ flatCounts.StaysInside "Views" "b" [⟨[.tag "b"], []⟩] := by
  have hread : flatCounts.readAncestor "Views" "b" = .ok "7" := by decide +kernel
  have hnone : ¬ ∃ s a t, flatCounts.Leads "Views" [⟨[.tag "b"], []⟩] s a t :=
    inside?_eq_none_iff.mp (Option.isNone_iff_eq_none.mp (by decide +kernel))
  refine ⟨by decide +kernel, hread, hnone, fun hstays => ?_⟩
  have hmissed := hstays.missed hnone
  rw [hread] at hmissed
  simp [Reading.toJson] at hmissed

end Document
end Pageflow.Dom
