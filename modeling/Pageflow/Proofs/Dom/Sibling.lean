import Pageflow.Proofs.Dom.Normal
import Pageflow.Selector.Extraction

/-! Reading the element after an anchor. The anchor that is read from is the last one in document
order, so nothing inside it is an anchor as well; what is read stands in the next element below the
same parent, or, where there is none, in the one after the parent. -/
namespace Pageflow.Dom

/-! ## Places in a tree -/

namespace Spot

/-- An element without its place. -/
def node (s : Spot) : Node := .element s.here.traits s.here.children

/-- `p` is the parent of `s`. -/
def Below (s p : Spot) : Prop := s.above = p.here :: p.above

/-- Only texts are between `s` and the element `n` after it below the same parent. -/
def Next (s n : Spot) : Prop := ∃ p before between, s.Below p ∧ n.Below p ∧
  p.here.children = before ++ s.node :: s.here.followers ∧
  s.here.followers = between ++ n.node :: n.here.followers ∧
  ∀ m ∈ between, ∃ content, m = .text content

/-- `n` is the element after `s`, or after its parent if `s` is the last element below it. -/
inductive Beside (s : Spot) : Spot → Prop where
  | own {n : Spot} (hnext : s.Next n) : Beside s n
  | parents {p n : Spot} (hlast : ∀ n, ¬ s.Next n) (hbelow : s.Below p) (hnext : p.Next n) :
    Beside s n

/-- `t` is the first element inside `s` that fits a child selector, or `s` itself if none does. -/
inductive Reads (read : SelectorReader) (child : String) (s : Spot) : Spot → Prop where
  | inside {fits : Spot → Spot → Bool} {t : Spot} {skipped rest : List Spot} (hne : child ≠ "")
    (hread : read child = some fits) (hsplit : s.descendants = skipped ++ t :: rest)
    (hfits : fits s t = true) (hskipped : ∀ t ∈ skipped, fits s t = false) : Reads read child s t
  | itself (hnone : child ≠ "" → ∀ fits, read child = some fits →
    ∀ t ∈ s.descendants, fits s t = false) : Reads read child s s

/-- `s` stands below an element of `spots`, at the place that its followers say. -/
def Placed (spots : List Spot) (s : Spot) : Prop := ∃ p ∈ spots, ∃ before,
  s.Below p ∧ p.here.children = before ++ s.node :: s.here.followers

end Spot

/-- `s` is the last element of a tree, in document order, that contains the anchor. -/
def Node.LastAnchor (root : Node) (anchor : String) (s : Spot) : Prop :=
  s.contains anchor = true ∧ ∃ before after, root.spots [] [] = before ++ s :: after ∧
    ∀ t ∈ after, t.contains anchor = false

variable {spots spots' : List Spot} {s p n t : Spot} {read : SelectorReader} {root : Node}
  {anchor child : String}

theorem Spot.Placed.mono (h : s.Placed spots) (hsub : spots ⊆ spots') : s.Placed spots' := by
  obtain ⟨p, hp, hplaced⟩ := h
  exact ⟨p, hsub hp, hplaced⟩

mutual
theorem placed_of_mem_spots (node : Node) {above : List Frame} {followers : List Node}
    (h : s ∈ node.spots above followers) :
    (s.above = above ∧ s.node = node ∧ s.here.followers = followers) ∨
      s.Placed (node.spots above followers) := by
  match node with
  | .text content => simp [Node.spots] at h
  | .element traits children =>
    rw [Node.spots] at h ⊢
    rcases List.mem_cons.mp h with rfl | hinside
    · exact .inl ⟨rfl, rfl, rfl⟩
    · right
      rcases placed_of_mem_spotsIn children hinside with ⟨habove, before, hbefore⟩ | hplaced
      · exact ⟨_, List.mem_cons_self, before, habove, hbefore⟩
      · exact hplaced.mono (List.subset_cons_self _ _)

theorem placed_of_mem_spotsIn (nodes : List Node) {above : List Frame}
    (h : s ∈ spotsIn above nodes) :
    (s.above = above ∧ ∃ before, nodes = before ++ s.node :: s.here.followers) ∨
      s.Placed (spotsIn above nodes) := by
  match nodes with
  | [] => simp [spotsIn] at h
  | node :: rest =>
    rw [spotsIn] at h ⊢
    rcases List.mem_append.mp h with hnode | hrest
    · rcases placed_of_mem_spots node hnode with ⟨habove, rfl, rfl⟩ | hplaced
      · exact .inl ⟨habove, [], rfl⟩
      · exact .inr (hplaced.mono (List.subset_append_left _ _))
    · rcases placed_of_mem_spotsIn rest hrest with ⟨habove, before, rfl⟩ | hplaced
      · exact .inl ⟨habove, node :: before, rfl⟩
      · exact .inr (hplaced.mono (List.subset_append_right _ _))
end

mutual
/-- In document order an element is followed by what is inside it. -/
theorem descendants_isPrefix (node : Node) {above : List Frame} {followers : List Node}
    {before after : List Spot} (h : node.spots above followers = before ++ s :: after) :
    s.descendants <+: after := by
  match node with
  | .text content => simp [Node.spots] at h
  | .element traits children =>
    rw [Node.spots] at h
    cases before with
    | nil =>
      obtain ⟨rfl, rfl⟩ := List.cons.inj h
      exact List.prefix_refl _
    | cons b before => exact descendants_isPrefix_in children (List.cons.inj h).2

theorem descendants_isPrefix_in (nodes : List Node) {above : List Frame}
    {before after : List Spot} (h : spotsIn above nodes = before ++ s :: after) :
    s.descendants <+: after := by
  match nodes with
  | [] => simp [spotsIn] at h
  | node :: rest =>
    rw [spotsIn, List.append_eq_append_iff] at h
    obtain ⟨more, -, hrest⟩ | ⟨more, hnode, hrest⟩ := h
    · exact descendants_isPrefix_in rest hrest
    · cases more with
      | nil =>
        have hfirst : spotsIn above rest = [] ++ s :: after := hrest.symm
        exact descendants_isPrefix_in rest hfirst
      | cons t more =>
        obtain ⟨rfl, rfl⟩ := List.cons.inj hrest
        exact (descendants_isPrefix node hnode).trans (List.prefix_append _ _)
end

/-- The last element that satisfies `q`. -/
theorem getLast?_filter_eq_some_iff {α : Type} {q : α → Bool} {l : List α} {a : α} :
    (l.filter q).getLast? = some a ↔ q a = true ∧ ∃ before after, l = before ++ a :: after ∧
      ∀ b ∈ after, q b = false := by
  rw [List.getLast?_eq_head?_reverse, ← List.filter_reverse, List.head?_filter,
    List.find?_eq_some_iff_append]
  refine and_congr_right fun _ => ?_
  constructor
  · rintro ⟨after, before, hl, hafter⟩
    exact ⟨before.reverse, after.reverse, by simpa using congrArg List.reverse hl,
      by simpa using hafter⟩
  · rintro ⟨before, after, rfl, hafter⟩
    exact ⟨after.reverse, before.reverse, by simp, by simpa using hafter⟩

theorem lastAnchor_iff :
    ((root.spots [] []).filter (Spot.contains anchor)).getLast? = some s ↔
      root.LastAnchor anchor s :=
  getLast?_filter_eq_some_iff

namespace Spot

theorem firstElement?_eq_some_iff {nodes : List Node} {f : Frame} :
    firstElement? nodes = some f ↔ ∃ between,
      nodes = between ++ .element f.traits f.children :: f.followers ∧
      ∀ m ∈ between, ∃ content, m = .text content := by
  induction nodes with
  | nil => simp [firstElement?]
  | cons node rest ih =>
    cases node with
    | text content =>
      rw [firstElement?, ih]
      constructor
      · rintro ⟨between, rfl, hbetween⟩
        exact ⟨.text content :: between, rfl, List.forall_mem_cons.mpr ⟨⟨content, rfl⟩, hbetween⟩⟩
      · rintro ⟨between, hnodes, hbetween⟩
        cases between with
        | nil => cases hnodes
        | cons m between =>
          exact ⟨between, (List.cons.inj hnodes).2, (List.forall_mem_cons.mp hbetween).2⟩
    | element traits children =>
      rw [firstElement?]
      constructor
      · rintro ⟨⟩
        exact ⟨[], rfl, nofun⟩
      · rintro ⟨between, hnodes, hbetween⟩
        cases between with
        | nil => cases hnodes; rfl
        | cons m between =>
          obtain ⟨rfl, -⟩ := List.cons.inj hnodes
          obtain ⟨content, hcontent⟩ := (List.forall_mem_cons.mp hbetween).1
          cases hcontent

theorem parent?_eq_some_iff : s.parent? = some p ↔ s.Below p := by
  unfold parent? Below
  cases s.above with
  | nil => simp
  | cons f above => simp [Spot.ext_iff]

theorem nextSibling?_eq_some_iff (hs : s ∈ root.spots [] []) :
    s.nextSibling? = some n ↔ s.Next n := by
  unfold nextSibling?
  rw [Option.map_eq_some_iff]
  constructor
  · rintro ⟨f, hf, rfl⟩
    obtain ⟨between, hfollowers, hbetween⟩ := firstElement?_eq_some_iff.mp hf
    rcases placed_of_mem_spots root hs with ⟨-, -, hnone⟩ | ⟨p, -, before, hbelow, hchildren⟩
    · simp [hnone] at hfollowers
    · exact ⟨p, before, between, hbelow, hbelow, hchildren, hfollowers, hbetween⟩
  · rintro ⟨p, before, between, hbelow, hbelow', -, hfollowers, hbetween⟩
    exact ⟨n.here, firstElement?_eq_some_iff.mpr ⟨between, hfollowers, hbetween⟩,
      Spot.ext rfl (hbelow.trans hbelow'.symm)⟩

theorem Below.unique {q : Spot} (h : s.Below p) (h' : s.Below q) : p = q := by
  obtain ⟨hhere, habove⟩ := List.cons.inj (h.symm.trans h')
  exact Spot.ext hhere habove

theorem Below.mem (hs : s ∈ root.spots [] []) (h : s.Below p) : p ∈ root.spots [] [] := by
  rcases placed_of_mem_spots root hs with ⟨hroot, -⟩ | ⟨q, hq, -, hbelow, -⟩
  · cases hroot.symm.trans h
  · rwa [h.unique hbelow]

theorem sibling?_eq_some_iff (hs : s ∈ root.spots [] []) : s.sibling? = some n ↔ s.Beside n := by
  unfold sibling?
  cases hnext : s.nextSibling? with
  | some m =>
    have hm := (nextSibling?_eq_some_iff hs).mp hnext
    constructor
    · rintro ⟨⟩
      exact .own hm
    · rintro (hn | ⟨hlast, -, -⟩)
      · exact hnext.symm.trans ((nextSibling?_eq_some_iff hs).mpr hn)
      · exact absurd hm (hlast m)
  | none =>
    have hlast : ∀ m, ¬ s.Next m := by
      intro m hm
      rw [(nextSibling?_eq_some_iff hs).mpr hm] at hnext
      cases hnext
    simp only [Option.bind_eq_some_iff, parent?_eq_some_iff]
    constructor
    · rintro ⟨p, hbelow, hn⟩
      exact .parents hlast hbelow ((nextSibling?_eq_some_iff (hbelow.mem hs)).mp hn)
    · rintro (hn | ⟨-, hbelow, hn⟩)
      · exact absurd hn (hlast n)
      · exact ⟨_, hbelow, (nextSibling?_eq_some_iff (hbelow.mem hs)).mpr hn⟩

theorem target_of_read {fits : Spot → Spot → Bool} (hempty : child ≠ "")
    (hfits : read child = some fits) :
    s.target read child = .ok ((s.descendants.find? (fits s)).getD s) := by
  unfold target
  rw [if_neg (by simpa using hempty), hfits]

theorem reads_iff_of_read {fits : Spot → Spot → Bool} (hempty : child ≠ "")
    (hfits : read child = some fits) :
    s.Reads read child t ↔ t = (s.descendants.find? (fits s)).getD s := by
  constructor
  · rintro (⟨-, hread, hsplit, hfit, hskipped⟩ | hnone)
    · obtain rfl := Option.some.inj (hfits.symm.trans hread)
      rw [List.find?_eq_some_iff_append.mpr ⟨hfit, _, _, hsplit, by simpa using hskipped⟩]
      rfl
    · rw [List.find?_eq_none.mpr (by simpa using hnone hempty fits hfits)]
      rfl
  · rintro rfl
    cases hfind : s.descendants.find? (fits s) with
    | some t =>
      obtain ⟨hfit, skipped, rest, hsplit, hskipped⟩ := List.find?_eq_some_iff_append.mp hfind
      exact .inside hempty hfits hsplit hfit (by simpa using hskipped)
    | none =>
      refine .itself fun _ fits' hfits' => ?_
      obtain rfl := Option.some.inj (hfits.symm.trans hfits')
      simpa using hfind

/-- A child selector that is empty or valid leads to one element. -/
theorem target_eq_ok_iff (hchild : child = "" ∨ (read child).isSome) :
    s.target read child = .ok t ↔ s.Reads read child t := by
  by_cases hempty : child = ""
  · subst hempty
    constructor
    · rintro ⟨⟩
      exact .itself fun hne => absurd rfl hne
    · rintro (⟨hne, -, -, -, -⟩ | -)
      · exact absurd rfl hne
      · rfl
  · obtain ⟨fits, hfits⟩ := Option.isSome_iff_exists.mp (hchild.resolve_left hempty)
    rw [target_of_read hempty hfits, reads_iff_of_read hempty hfits, Except.ok.injEq, eq_comm]

theorem exists_target (hchild : child = "" ∨ (read child).isSome) (s : Spot) :
    ∃ t, s.target read child = .ok t := by
  by_cases hempty : child = ""
  · exact ⟨s, if_pos (by simp [hempty])⟩
  · obtain ⟨fits, hfits⟩ := Option.isSome_iff_exists.mp (hchild.resolve_left hempty)
    exact ⟨_, target_of_read hempty hfits⟩

end Spot

/-! ## What is read -/

namespace Node.LastAnchor

variable (h : root.LastAnchor anchor s)
include h

theorem mem : s ∈ root.spots [] [] := by
  obtain ⟨-, before, after, hspots, -⟩ := h
  simp [hspots]

/-- What is inside the last anchor does not contain it. -/
theorem innermost : ∀ t ∈ s.descendants, t.contains anchor = false := by
  obtain ⟨-, before, after, hspots, hafter⟩ := h
  exact fun t ht => hafter t ((descendants_isPrefix root hspots).subset ht)

theorem unique {s' : Spot} (h' : root.LastAnchor anchor s') : s = s' :=
  Option.some.inj ((lastAnchor_iff.mpr h).symm.trans (lastAnchor_iff.mpr h'))

end Node.LastAnchor

/-- What a script that reads the element after an anchor finds: no element contains the anchor, the
last one that does has no element beside it, or there is one, and it is read. -/
inductive Node.Finds (read : SelectorReader) (root : Node) (anchor child : String) :
    Extraction → Prop where
  | nothing (hnone : ∀ s ∈ root.spots [] [], s.contains anchor = false) :
    Node.Finds read root anchor child (.miss (.str "anchor text not found"))
  | alone {s : Spot} (hlast : root.LastAnchor anchor s) (hnone : ∀ n, ¬ s.Beside n) :
    Node.Finds read root anchor child (.miss (.str "anchor has no next sibling"))
  | text {s n t : Spot} (hlast : root.LastAnchor anchor s) (hbeside : s.Beside n)
    (hreads : n.Reads read child t) :
    Node.Finds read root anchor child (.value t.trimmedText)

theorem finds_readNextSibling (hchild : child = "" ∨ (read child).isSome) :
    root.Finds read anchor child
      (.ofScript (root.readNextSibling read anchor child).toJson) := by
  unfold Node.readNextSibling
  split
  · rename_i hnone
    rw [List.getLast?_eq_none_iff, List.filter_eq_nil_iff] at hnone
    exact .nothing (by simpa using hnone)
  · rename_i s hlast
    rw [lastAnchor_iff] at hlast
    split
    · rename_i hnone
      refine .alone hlast fun n hn => ?_
      rw [(Spot.sibling?_eq_some_iff hlast.mem).mpr hn] at hnone
      cases hnone
    · rename_i n hn
      obtain ⟨t, ht⟩ := Spot.exists_target hchild n
      rw [ht]
      exact .text hlast ((Spot.sibling?_eq_some_iff hlast.mem).mp hn)
        ((Spot.target_eq_ok_iff hchild).mp ht)

theorem Spot.Reads.unique {t' : Spot} (hchild : child = "" ∨ (read child).isSome)
    (h : s.Reads read child t) (h' : s.Reads read child t') : t = t' := by
  rw [← Spot.target_eq_ok_iff hchild] at h h'
  exact Except.ok.inj (h.symm.trans h')

theorem Spot.Beside.unique {m : Spot} (hs : s ∈ root.spots [] []) (h : s.Beside n)
    (h' : s.Beside m) : n = m := by
  rw [← Spot.sibling?_eq_some_iff hs] at h h'
  exact Option.some.inj (h.symm.trans h')

theorem Node.Finds.unique {found found' : Extraction} (hchild : child = "" ∨ (read child).isSome)
    (h : root.Finds read anchor child found) (h' : root.Finds read anchor child found') :
    found = found' := by
  have hclash {s : Spot} (hnone : ∀ s ∈ root.spots [] [], s.contains anchor = false)
      (hlast : root.LastAnchor anchor s) : False := by
    have hcontains := hlast.1
    simp [hnone s hlast.mem] at hcontains
  cases h with
  | nothing hnone =>
    cases h' with
    | nothing => rfl
    | alone hlast => exact (hclash hnone hlast).elim
    | text hlast => exact (hclash hnone hlast).elim
  | alone hlast hnone =>
    cases h' with
    | nothing hnone' => exact (hclash hnone' hlast).elim
    | alone => rfl
    | text hlast' hbeside =>
      obtain rfl := hlast.unique hlast'
      exact absurd hbeside (hnone _)
  | text hlast hbeside hreads =>
    cases h' with
    | nothing hnone => exact (hclash hnone hlast).elim
    | alone hlast' hnone =>
      obtain rfl := hlast.unique hlast'
      exact absurd hbeside (hnone _)
    | text hlast' hbeside' hreads' =>
      obtain rfl := hlast.unique hlast'
      obtain rfl := hbeside.unique hlast.mem hbeside'
      rw [hreads.unique hchild hreads']

/-- Every element around one that contains an anchor contains it. So nothing inside the last such
element contains it, and what is found is what its next element sibling leads to. -/
theorem readNextSibling_finds (hchild : child = "" ∨ (read child).isSome) :
    (∀ s ∈ root.spots [] [], s.contains anchor = true →
      ∀ a ∈ s.ancestors, a.contains anchor = true) ∧
    (∀ s, root.LastAnchor anchor s → ∀ t ∈ s.descendants, t.contains anchor = false) ∧
    ∀ found, Extraction.ofScript (root.readNextSibling read anchor child).toJson = found ↔
      root.Finds read anchor child found := by
  refine ⟨fun s hs h a ha => Node.contains_of_mem_ancestors hs ha h, fun s h => h.innermost,
    fun found => ⟨?_, fun h => (finds_readNextSibling hchild).unique hchild h⟩⟩
  rintro rfl
  exact finds_readNextSibling hchild

/-- A row of a table: what is counted, and the count in bold letters. -/
def viewsRow : Document where
  content := [.element (.plain "tr")
    [.element (.plain "td") [.text " Total\n", .element (.plain "i") [.text "views "]],
      .text "\n",
      .element (.plain "td") [.element (.plain "b") [.text " 7 "], .text "this week"]]]

theorem viewsRow_finds :
    (Selector.read "b").isSome = true ∧
      viewsRow.readNextSibling "Total views" "b" = .ok "7" ∧
      viewsRow.root.Finds Selector.read "Total views" "b" (.value "7") := by
  have hchild : (Selector.read "b").isSome = true := by decide +kernel
  have hread : viewsRow.readNextSibling "Total views" "b" = .ok "7" := by decide +kernel
  refine ⟨hchild, hread, ((readNextSibling_finds (.inr hchild)).2.2 _).mp ?_⟩
  exact congrArg (fun r : Reading => Extraction.ofScript r.toJson) hread

end Pageflow.Dom
