import Pageflow.Proofs.Capture.Content

/-! Long captures with an overlap that is no smaller than what is visible. The region creeps a pixel
at a time to its end, but behind the overlap the tiles in the middle have no rows left to give: the
image is the first row and the last view. -/
namespace Pageflow.Capture
open Browser

/-! ## The plan -/

section

variable {h : Heights}

theorem advance_eq_one (hoverlap : h.viewport ≤ h.overlap) : h.advance = 1 := by
  unfold Heights.advance
  omega

/-- Behind such an overlap a tile has no rows. -/
theorem planFrom_creeping (hviewport : 0 < h.viewport) (hoverlap : h.viewport ≤ h.overlap)
    (left index : Nat) (composed : Int) (hindex : 0 < index) :
    planFrom h index composed (List.replicate (left + 1) h.viewport) =
      planFrom h (index + left) composed [h.viewport] := by
  induction left generalizing index with
  | zero => rfl
  | succ left ih =>
    have hnone : available h.viewport (h.wanted index false composed) ≤ 0 := by
      simp only [Heights.wanted, advance_eq_one hoverlap, available, Bool.false_eq_true,
        ↓reduceIte, hindex.ne']
      omega
    rw [List.replicate_succ, planFrom_cons, List.isEmpty_replicate, decide_eq_false (by omega),
      fit_eq_none_iff.mpr hnone, max_eq_left hnone, Option.toList_none, List.nil_append,
      Int.add_zero, ih (index + 1) (by omega)]
    congr 1
    omega

theorem plan_creeping (hviewport : 0 < h.viewport) (hoverlap : h.viewport ≤ h.overlap)
    (htotal : h.viewport < h.total) {scrolls : Nat} (hscrolls : 0 < scrolls) :
    plan h (List.replicate (scrolls + 1) h.viewport) =
      [⟨0, 0, 1⟩, ⟨scrolls, 0, h.viewport⟩] := by
  obtain ⟨left, rfl⟩ : ∃ left, scrolls = left + 1 := ⟨scrolls - 1, by omega⟩
  have hfirst : fit 0 h.viewport (h.wanted 0 false 0) = some ⟨0, 0, 1⟩ := by
    simp only [Heights.wanted, advance_eq_one hoverlap, Bool.false_eq_true, ↓reduceIte]
    exact fit_eq_some _ _ _ _ le_rfl one_pos (by omega)
  have hlast : fit (left + 1) h.viewport (h.wanted (left + 1) true 1) =
      some ⟨left + 1, 0, h.viewport⟩ := by
    simp only [Heights.wanted, ↓reduceIte]
    rw [fit_last _ _ _ hviewport (by omega), max_eq_left (by omega), min_eq_left (by omega)]
  unfold plan
  rw [List.replicate_succ, planFrom, List.isEmpty_replicate, decide_eq_false (by omega), hfirst]
  dsimp only
  rw [Int.zero_add, planFrom_creeping hviewport hoverlap _ _ _ Nat.one_pos, Nat.add_comm 1 left,
    planFrom, List.isEmpty_nil, hlast]
  rfl

end

/-! ## The capture -/

namespace Region

variable (r : Region)

/-- The rows of the content that a creeping capture shows, from top to bottom. -/
def creptRows : List Nat := 0 :: List.range' (r.limit * r.ratio) (r.client * r.ratio)

variable {r} {overlap : Nat}

theorem scrolled_creeping (hoverlap : r.client ≤ overlap) (top : Nat) :
    r.scrolled overlap top = min (r.content - r.client) (top + 1) := by
  have hadvance : (max 1 ((r.client : Int) - overlap)).toNat = 1 := by omega
  rw [scrolled, hadvance]

/-- The region is scrolled through all its positions. -/
theorem path_creeping (hoverlap : r.client ≤ overlap) : r.Path overlap 0 r.limit fun n => n where
  begins := rfl
  next n hn := by
    unfold limit at hn
    rw [scrolled_creeping hoverlap]
    omega
  moves n _ := Nat.lt_succ_self n
  ends := rfl

/-- The views at all positions. -/
def views (r : Region) : List Image := (List.range (r.limit + 1)).map r.view

theorem views_getElem? {i : Nat} (hi : i ≤ r.limit) : r.views[i]? = some (r.view i) := by
  rw [views, List.getElem?_map, List.getElem?_range (by omega), Option.map_some]

theorem plan_views (hclient : 0 < r.client) (hoverlap : r.client ≤ overlap) :
    plan (r.heights overlap) (r.views.map fun tile => (tile.height : Int)) =
      [⟨0, (0 : Nat), (1 : Nat)⟩, ⟨r.limit, (0 : Nat), (r.client * r.ratio : Nat)⟩] := by
  have hheights : r.views.map (fun tile => (tile.height : Int)) =
      List.replicate (r.limit + 1) (r.heights overlap).viewport := by
    simp [views, Image.height, view, heights, Function.comp_def]
  rw [hheights]
  exact plan_creeping (Int.natCast_pos.mpr (Nat.mul_pos hclient r.ratio_pos))
    (Int.ofNat_le.mpr (Nat.mul_le_mul_right _ hoverlap))
    (Int.ofNat_lt.mpr (Nat.mul_lt_mul_of_pos_right r.client_lt r.ratio_pos)) r.limit_pos

theorem stitch_views (hclient : 0 < r.client) (hoverlap : r.client ≤ overlap)
    (hexact : overlap * r.ratio ≤ 2 ^ 52) :
    stitch (r.views.map .image) ⟨Double.ofInt r.content, Double.ofInt r.client,
        Double.ofInt overlap, Double.ofInt r.ratio⟩ =
      .ok ⟨r.width, r.creptRows.map r.row⟩ := by
  have hview : 0 + 1 ≤ r.client * r.ratio := Nat.mul_pos hclient r.ratio_pos
  have hsome : plan (r.heights overlap) (r.views.map fun tile => (tile.height : Int)) ≠ [] := by
    rw [plan_views hclient hoverlap]
    exact List.cons_ne_nil _ _
  have hwidth : (r.views.head?.map Image.width).getD 0 = r.width := by
    rw [List.head?_eq_getElem?, views_getElem? (Nat.zero_le _)]
    rfl
  rw [stitch_images _ _ (by simp [views]), stitchImages_eq (heights_eq hexact) hsome hwidth,
    plan_views hclient hoverlap, List.flatMap_cons, List.flatMap_singleton,
    cropRows_view _ (views_getElem? (Nat.zero_le _)) hview,
    cropRows_view _ (views_getElem? le_rfl) (Nat.zero_add _).le]
  simp [creptRows]

/-- A capture that creeps: it takes a tile at every position, a scroll moves the region by a pixel
after each tile but the last, which is at the end, and the image has the first row of the content
and the last view. It is as high as the content only if that has a single pixel more than is
visible. -/
structure Crept (r : Region) (overlap : Nat) (page : PageRef) (selector : String)
    (element : ElementRef) (ms : Int) (noted : List (Note Ask Ask.Reply)) (image : Image) :
    Prop where
  course : noted =
    r.course overlap 0 (List.range (r.content - r.client + 1)) page selector element ms
  moves : ∀ top < r.content - r.client, r.scrolled overlap top = top + 1
  rests : r.scrolled overlap (r.content - r.client) = r.content - r.client
  rows : image.rows = r.creptRows.map r.row
  height : image.height = r.client * r.ratio + 1
  height_eq_iff : image.height = r.content * r.ratio ↔ r.content = r.client + 1 ∧ r.ratio = 1

theorem height_creeping_iff (hclient : r.client < r.content) :
    r.client * r.ratio + 1 = r.content * r.ratio ↔ r.content = r.client + 1 ∧ r.ratio = 1 := by
  obtain ⟨more, hmore⟩ : ∃ more, r.content = r.client + (more + 1) :=
    ⟨r.content - r.client - 1, by omega⟩
  rw [hmore, Nat.add_mul, Nat.add_right_inj, eq_comm, mul_eq_one]
  omega

namespace Shown

variable {W : Type} {env : Responses State Ask Ask.Reply W} {top : W → Nat}
  {page : PageRef} {selector : String} {element : ElementRef} {o : LongOptions}

theorem noting_captureLong_creeping (h : r.Shown env top page selector element)
    (ho : o.overlap = overlap) (hclient : 0 < r.client) (hoverlap : r.client ≤ overlap)
    (hexact : overlap * r.ratio ≤ 2 ^ 52) (htiles : r.limit + 1 ≤ o.maxTiles) (x : W × State)
    (hx : top x.1 = 0) :
    ∃ y, (captureLong page o selector).Noting env browses x
      (r.course overlap 0 (List.range (r.limit + 1)) page selector element o.timeoutMs)
      (.ok (.image ⟨r.width, r.creptRows.map r.row⟩)) y := by
  have hstitch := stitch_views hclient hoverlap hexact
  rw [views, List.map_map] at hstitch
  rw [← List.map_id' (List.range (r.limit + 1))] at hstitch ⊢
  exact h.noting_captureLong_along ho (path_creeping hoverlap) htiles hstitch x hx

/-- With an overlap that is no smaller than what is visible the loop reaches the end, but the image
is a row higher than a view, whatever the content. -/
theorem captureLong_crept (h : r.Shown env top page selector element) (ho : o.overlap = overlap)
    (hclient : 0 < r.client) (hoverlap : r.client ≤ overlap)
    (hexact : overlap * r.ratio ≤ 2 ^ 52)
    (htiles : ((r.content - r.client : Nat) : Int) + 1 ≤ o.maxTiles) (x : W × State)
    (hx : top x.1 = 0) :
    ∃ noted image y,
      (captureLong page o selector).Noting env browses x noted (.ok (.image image)) y ∧
      r.Crept overlap page selector element o.timeoutMs noted image := by
  obtain ⟨y, hcapture⟩ := h.noting_captureLong_creeping ho hclient hoverlap hexact htiles x hx
  have hheight : (r.creptRows.map r.row).length = r.client * r.ratio + 1 := by simp [creptRows]
  refine ⟨_, _, y, hcapture, ?_⟩
  constructor
  case course => rfl
  case moves =>
    intro position hposition
    rw [scrolled_creeping hoverlap]
    omega
  case rests => exact scrolled_limit
  case rows => rfl
  case height => exact hheight
  case height_eq_iff =>
    rw [← height_creeping_iff r.client_lt]
    exact Eq.congr_left hheight

end Shown

/-- The first five rows of the ruler, of which four are visible. -/
def tightRuler : Region :=
  { ruler with content := 5, client_lt := by decide, exact := by decide }

theorem captureLong_crept_tightRuler :
    0 < 4 ∧ 4 ≤ 4 ∧ ∃ noted image y,
      (captureLong ⟨0⟩ { overlap := 4 } "#list").Noting (tightRuler.display ⟨⟨0⟩, "#list"⟩) browses
        (0, {}) noted (.ok (.image image)) y ∧
      tightRuler.Crept 4 ⟨0⟩ "#list" ⟨⟨0⟩, "#list"⟩ 15000 noted image ∧ image.height = 5 := by
  have hoverlap : ({ overlap := 4 } : LongOptions).overlap = (4 : Nat) := rfl
  obtain ⟨noted, image, y, hcapture, hcrept⟩ :=
    (tightRuler.shown_display ⟨0⟩ "#list" ⟨⟨0⟩, "#list"⟩).captureLong_crept hoverlap (by decide)
      (by decide) (by decide) (by decide) (0, {}) rfl
  exact ⟨by decide, le_rfl, noted, image, y, hcapture, hcrept,
    hcrept.height_eq_iff.mpr (by decide)⟩

/-- Of the ruler's ten rows five are shown. -/
theorem captureLong_crept_short :
    ∃ image, ((captureLong ⟨0⟩ { overlap := 4 } "#list").run (ruler.display ⟨⟨0⟩, "#list"⟩)
        (0, {})).1 = .ok (.image image) ∧
      image.rows = [0, 6, 7, 8, 9].map ruler.row ∧ image.height ≠ 10 := by
  have hrows : ruler.creptRows = [0, 6, 7, 8, 9] := by decide
  have hoverlap : ({ overlap := 4 } : LongOptions).overlap = (4 : Nat) := rfl
  obtain ⟨y, hcapture⟩ :=
    (ruler.shown_display ⟨0⟩ "#list" ⟨⟨0⟩, "#list"⟩).noting_captureLong_creeping hoverlap
      (by decide) (by decide) (by decide) (by decide) (0, {}) rfl
  rw [hrows] at hcapture
  exact ⟨_, by rw [hcapture.run], rfl, by decide⟩

end Region
end Pageflow.Capture
