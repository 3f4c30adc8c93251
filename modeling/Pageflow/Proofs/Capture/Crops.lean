import Mathlib.Algebra.BigOperators.Group.List.Basic
import Pageflow.Capture.Stitch
import Pageflow.Proofs.Number.Double

/-! What a plan takes from tiles of any heights: every crop lies within its tile, and the rows
of all crops are those that the tiles before the last give and those that are then left for
the last. -/
namespace Pageflow.Capture

/-! ## Whole sizes -/

/-- Whole sizes are scaled exactly as long as a double holds their halves. -/
theorem toPixels_whole {size ratio : Int} (hratio : ratio ≠ 0) (hlarge : ratio.natAbs ≤ 2 ^ 53)
    (hexact : (size * ratio).natAbs ≤ 2 ^ 52) :
    toPixels (Double.ofInt size) (Double.ofInt ratio) = .ok (size * ratio) := by
  have hsize : size.natAbs ≤ (size * ratio).natAbs := by
    rw [Int.natAbs_mul]
    exact Nat.le_mul_of_pos_right _ (Int.natAbs_pos.mpr hratio)
  unfold toPixels
  rw [Double.mul_ofInt (by omega) hlarge]
  simp only [Double.roundHalfUp?_ofInt hexact]

theorem heights_whole {content viewport overlap ratio : Int} (hratio : ratio ≠ 0)
    (hlarge : ratio.natAbs ≤ 2 ^ 53) (hcontent : (content * ratio).natAbs ≤ 2 ^ 52)
    (hviewport : (viewport * ratio).natAbs ≤ 2 ^ 52)
    (hoverlap : (overlap * ratio).natAbs ≤ 2 ^ 52) :
    Scale.heights ⟨Double.ofInt content, Double.ofInt viewport, Double.ofInt overlap,
        Double.ofInt ratio⟩ =
      .ok ⟨content * ratio, viewport * ratio, overlap * ratio⟩ := by
  have hnonzero : (Double.ofInt ratio).isZero = false := by
    rw [Double.isZero_ofInt hlarge, decide_eq_false hratio]
  unfold Scale.heights
  simp only [hnonzero, Bool.false_eq_true, ↓reduceIte]
  rw [toPixels_whole hratio hlarge hcontent, toPixels_whole hratio hlarge hviewport,
    toPixels_whole hratio hlarge hoverlap]
  rfl

theorem toPixels_content {s : Scale} {h : Heights} (hheights : s.heights = .ok h)
    (hratio : s.ratio.isZero = false) : toPixels s.content s.ratio = .ok h.total := by
  unfold Scale.heights at hheights
  simp only [hratio, Bool.false_eq_true, ↓reduceIte] at hheights
  generalize toPixels s.content s.ratio = total at hheights ⊢
  generalize toPixels s.viewport s.ratio = viewport at hheights
  generalize toPixels s.overlap s.ratio = overlap at hheights
  -- There are heights only if all three sizes have their pixels.
  cases total <;> cases viewport <;> cases overlap <;> cases hheights
  rfl

/-! ## One tile -/

/-- How many of the wanted rows a tile of this height has; not positive if it has none. -/
def available (tileHeight : Int) (wanted : Int × Int) : Int :=
  min wanted.2 (tileHeight - max 0 wanted.1)

theorem fit_eq (index : Nat) (tileHeight : Int) (wanted : Int × Int) :
    fit index tileHeight wanted =
      if available tileHeight wanted ≤ 0 then none
      else some ⟨index, max 0 wanted.1, available tileHeight wanted⟩ := by
  have hheight : (if max 0 wanted.1 + wanted.2 > tileHeight then tileHeight - max 0 wanted.1
      else wanted.2) = available tileHeight wanted := by
    unfold available
    split <;> omega
  simp only [fit, hheight]

theorem fit_eq_none_iff {index : Nat} {tileHeight : Int} {wanted : Int × Int} :
    fit index tileHeight wanted = none ↔ available tileHeight wanted ≤ 0 := by
  simp [fit_eq]

theorem fit_eq_some_iff {index : Nat} {tileHeight : Int} {wanted : Int × Int} {crop : Crop} :
    fit index tileHeight wanted = some crop ↔
      0 < available tileHeight wanted ∧
        crop = ⟨index, max 0 wanted.1, available tileHeight wanted⟩ := by
  simp [fit_eq, eq_comm]

/-! ## All tiles -/

/-- The rows that a crop names are in the tile that it names. -/
structure Crop.Within (crop : Crop) (tiles : List Int) : Prop where
  top_nonneg : 0 ≤ crop.top
  height_pos : 0 < crop.height
  fits : ∃ tileHeight, tiles[crop.tile]? = some tileHeight ∧ crop.top + crop.height ≤ tileHeight

variable (h : Heights)

theorem planFrom_cons (index : Nat) (composed tileHeight : Int) (rest : List Int) :
    planFrom h index composed (tileHeight :: rest) =
      (fit index tileHeight (h.wanted index rest.isEmpty composed)).toList ++
        planFrom h (index + 1)
          (composed + max 0 (available tileHeight (h.wanted index rest.isEmpty composed))) rest := by
  rw [planFrom]
  rcases hfit : fit index tileHeight (h.wanted index rest.isEmpty composed) with _ | crop
  · have hnone := fit_eq_none_iff.mp hfit
    simp [max_eq_left hnone]
  · obtain ⟨hpos, rfl⟩ := fit_eq_some_iff.mp hfit
    simp [max_eq_right hpos.le]

/-- The rows that a tile gives if it is not the last. -/
def Heights.gives (index : Nat) (tileHeight : Int) : Int :=
  max 0 (available tileHeight (h.wanted index false 0))

/-- The rows that the tiles before the last give, the first of them having the number `index`. -/
def Heights.givenBefore (index : Nat) (tiles : List Int) : Int :=
  ((tiles.dropLast.zipIdx index).map fun tile => h.gives tile.2 tile.1).sum

/-- Each tile is cropped by itself: only the last one looks at the rows of the others. -/
theorem planFrom_eq_filterMap {stop : Nat} {given : Int} (index : Nat) (composed : Int)
    (tiles : List Int) (hstop : index + tiles.length = stop)
    (hgiven : composed + h.givenBefore index tiles = given) :
    planFrom h index composed tiles = (tiles.zipIdx index).filterMap fun tile =>
      fit tile.2 tile.1 (h.wanted tile.2 (tile.2 + 1 == stop) given) := by
  induction tiles generalizing index composed with
  | nil => rfl
  | cons tileHeight rest ih =>
    cases rest with
    | nil =>
      obtain rfl : composed = given := by simpa [Heights.givenBefore] using hgiven
      have hlast : (index + 1 == stop) = true := by simp [← hstop]
      rw [planFrom_cons, List.zipIdx_cons, List.filterMap_cons]
      dsimp only
      rw [hlast, List.isEmpty_nil]
      cases fit index tileHeight (h.wanted index true composed) <;> rfl
    | cons next rest =>
      have hearly : (index + 1 == stop) = false := by simp [← hstop]
      have hlength : index + 1 + (next :: rest).length = stop := by
        rw [← hstop, List.length_cons (a := tileHeight)]
        omega
      have hleft : composed + h.gives index tileHeight + h.givenBefore (index + 1) (next :: rest) =
          given := by
        simp [← hgiven, Heights.givenBefore, Int.add_assoc]
      have hsame : h.wanted index false given = h.wanted index false composed := rfl
      rw [planFrom_cons, List.isEmpty_cons, List.zipIdx_cons, List.filterMap_cons]
      dsimp only
      rw [hearly, hsame, ← ih (index + 1) _ hlength hleft]
      cases fit index tileHeight (h.wanted index false composed) <;> rfl

/-- What is wanted of a tile by its number. -/
def Heights.wantedOf (tiles : List Int) (index : Nat) : Int × Int :=
  h.wanted index (index + 1 == tiles.length) (h.givenBefore 0 tiles)

theorem plan_eq_filterMap (tiles : List Int) :
    plan h tiles = tiles.zipIdx.filterMap fun tile => fit tile.2 tile.1 (h.wantedOf tiles tile.2) :=
  planFrom_eq_filterMap h 0 0 tiles (Nat.zero_add _) (Int.zero_add _)

/-- Every crop is of rows that its tile has, and of at least one. -/
theorem plan_within (tiles : List Int) : ∀ crop ∈ plan h tiles, crop.Within tiles := by
  intro crop hcrop
  rw [plan_eq_filterMap, List.mem_filterMap] at hcrop
  obtain ⟨⟨tileHeight, index⟩, htile, hfit⟩ := hcrop
  obtain ⟨hpos, rfl⟩ := fit_eq_some_iff.mp hfit
  refine ⟨le_max_left _ _, hpos, tileHeight, List.mk_mem_zipIdx_iff_getElem?.mp htile, ?_⟩
  simp only [available]
  omega

/-! ## How many rows -/

/-- The rows that the last tile gives if this many are left. -/
def Heights.givesLast (tileHeight left : Int) : Int :=
  max 0 (available tileHeight (h.viewport - left, left))

theorem sum_fit (index : Nat) (tileHeight : Int) (wanted : Int × Int) :
    ((fit index tileHeight wanted).toList.map (·.height)).sum =
      max 0 (available tileHeight wanted) := by
  rcases hfit : fit index tileHeight wanted with _ | crop
  · simp [max_eq_left (fit_eq_none_iff.mp hfit)]
  · obtain ⟨hpos, rfl⟩ := fit_eq_some_iff.mp hfit
    simp [max_eq_right hpos.le]

/-- Before the last tile nothing depends on how many rows there are in all. -/
theorem sum_planFrom (index : Nat) (composed last : Int) (tiles : List Int)
    (hlast : tiles.getLast? = some last) :
    ((planFrom h index composed tiles).map (·.height)).sum = h.givenBefore index tiles +
      h.givesLast last (h.total - (composed + h.givenBefore index tiles)) := by
  induction tiles generalizing index composed with
  | nil => cases hlast
  | cons tileHeight rest ih =>
    rw [planFrom_cons, List.map_append, List.sum_append, sum_fit]
    cases rest with
    | nil =>
      obtain rfl : tileHeight = last := by simpa using hlast
      simp [planFrom, Heights.wanted, Heights.givenBefore, Heights.givesLast]
    | cons next rest =>
      have hgives : max 0 (available tileHeight (h.wanted index false composed)) =
          h.gives index tileHeight := rfl
      have hbefore : h.givenBefore index (tileHeight :: next :: rest) =
          h.gives index tileHeight + h.givenBefore (index + 1) (next :: rest) := by
        simp [Heights.givenBefore]
      rw [ih _ _ (by simpa using hlast), List.isEmpty_cons, hgives, hbefore]
      simp only [Int.add_assoc]

theorem sum_plan (last : Int) (tiles : List Int) (hlast : tiles.getLast? = some last) :
    ((plan h tiles).map (·.height)).sum =
      h.givenBefore 0 tiles + h.givesLast last (h.total - h.givenBefore 0 tiles) := by
  have hsum := sum_planFrom h 0 0 last tiles hlast
  rwa [Int.zero_add] at hsum

/-! ## More tiles than needed

What becomes of more tiles than the content needs, as when it shrank while they were taken.
Only the last tile looks at how much is left; the others give their rows whatever the height of the
content, so the crops exceed it exactly if the tiles before the last do. -/

variable {h}

theorem givesLast_le (tileHeight left : Int) : h.givesLast tileHeight left ≤ max 0 left := by
  simp only [Heights.givesLast, available]
  omega

/-- Nothing is left for the last tile if the others give the content or more. -/
theorem sum_plan_of_le_givenBefore (tiles : List Int)
    (hsurplus : h.total ≤ h.givenBefore 0 tiles) :
    ((plan h tiles).map (·.height)).sum = h.givenBefore 0 tiles := by
  rcases hlast : tiles.getLast? with _ | last
  · obtain rfl := List.getLast?_eq_none_iff.mp hlast
    rfl
  · have hnone := givesLast_le (h := h) last (h.total - h.givenBefore 0 tiles)
    have hsome : 0 ≤ h.givesLast last (h.total - h.givenBefore 0 tiles) := le_max_left _ _
    rw [sum_plan h last tiles hlast]
    omega

theorem sum_plan_le_total_iff (htotal : 0 ≤ h.total) (tiles : List Int) :
    ((plan h tiles).map (·.height)).sum ≤ h.total ↔ h.givenBefore 0 tiles ≤ h.total := by
  constructor
  · intro hsum
    by_contra hsurplus
    rw [sum_plan_of_le_givenBefore tiles (by omega)] at hsum
    exact hsurplus hsum
  · intro hbefore
    rcases hlast : tiles.getLast? with _ | last
    · obtain rfl := List.getLast?_eq_none_iff.mp hlast
      exact htotal
    · have hleft := givesLast_le (h := h) last (h.total - h.givenBefore 0 tiles)
      rw [sum_plan h last tiles hlast]
      omega

/-- Whole heights in image pixels. -/
def unscaled (content viewport overlap : Int) : Scale :=
  ⟨Double.ofInt content, Double.ofInt viewport, Double.ofInt overlap, Double.ofInt 1⟩

theorem heights_unscaled {content viewport overlap : Int} (hcontent : content.natAbs ≤ 2 ^ 52)
    (hviewport : viewport.natAbs ≤ 2 ^ 52) (hoverlap : overlap.natAbs ≤ 2 ^ 52) :
    (unscaled content viewport overlap).heights = .ok ⟨content, viewport, overlap⟩ := by
  have hheights := @heights_whole content viewport overlap 1 Int.one_ne_zero (by decide)
    (by omega) (by omega) (by omega)
  rwa [Int.mul_one, Int.mul_one, Int.mul_one] at hheights

theorem total_unscaled {content viewport overlap : Int} (hcontent : content.natAbs ≤ 2 ^ 52)
    (hheights : (unscaled content viewport overlap).heights = .ok h) : h.total = content := by
  have hone : (Double.ofInt 1).isZero = false := by
    rw [Double.isZero_ofInt (by decide)]
    rfl
  have htotal := toPixels_content hheights hone
  have hwhole := @toPixels_whole content 1 Int.one_ne_zero (by decide) (by omega)
  rw [Int.mul_one] at hwhole
  exact Except.ok.inj (htotal.symm.trans hwhole)

/-- The crops of tiles of any heights are together no higher than the content exactly if the tiles
before the last give no more than that; if they give more, they are what is composed. A double holds
the content and a half up to 2 ^ 52. -/
theorem sum_plan_le_content_iff (content viewport overlap : Int) (hcontent : 0 ≤ content)
    (hexact : content ≤ 2 ^ 52) (tiles : List Int) :
    (viewport.natAbs ≤ 2 ^ 52 → overlap.natAbs ≤ 2 ^ 52 →
        (unscaled content viewport overlap).heights = .ok ⟨content, viewport, overlap⟩) ∧
      ∀ h, (unscaled content viewport overlap).heights = .ok h →
        (((plan h tiles).map (·.height)).sum ≤ content ↔ h.givenBefore 0 tiles ≤ content) ∧
        (content < h.givenBefore 0 tiles →
          ((plan h tiles).map (·.height)).sum = h.givenBefore 0 tiles) := by
  refine ⟨heights_unscaled (by omega), fun h hheights => ?_⟩
  obtain rfl := total_unscaled (by omega) hheights
  exact ⟨sum_plan_le_total_iff hcontent tiles,
    fun hsurplus => sum_plan_of_le_givenBefore tiles hsurplus.le⟩

/-- A surplus third tile adds nothing to the 500 rows of two. -/
theorem sum_plan_le_content_iff_third :
    (unscaled 500 300 50).heights = .ok ⟨500, 300, 50⟩ ∧
      ((plan ⟨500, 300, 50⟩ [300, 300, 300]).map (·.height)).sum ≤ 500 := by
  obtain ⟨hreturns, hplan⟩ :=
    sum_plan_le_content_iff 500 300 50 (by decide) (by decide) [300, 300, 300]
  have hheights := hreturns (by decide) (by decide)
  exact ⟨hheights, (hplan _ hheights).1.mpr (by decide)⟩

/-- A fourth one makes the third give its rows behind the overlap, though none are left. -/
theorem sum_plan_fourth :
    (unscaled 500 300 50).heights = .ok ⟨500, 300, 50⟩ ∧
      plan ⟨500, 300, 50⟩ [300, 300, 300, 300] = [⟨0, 0, 250⟩, ⟨1, 50, 250⟩, ⟨2, 50, 250⟩] ∧
      ¬ ((plan ⟨500, 300, 50⟩ [300, 300, 300, 300]).map (·.height)).sum ≤ 500 :=
  ⟨heights_unscaled (by decide) (by decide) (by decide), by decide, by decide⟩

end Pageflow.Capture
