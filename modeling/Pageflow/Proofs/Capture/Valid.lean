import Pageflow.Proofs.Capture.Rounding
import Pageflow.Proofs.Number.Range

/-! Plans are valid, whatever the tiles: each tile is cropped by itself, so the crops come in the
order of the tiles, lie within them, and leave out only tiles that have none of the wanted rows.
There is a plan for all sizes and ratios that are numbers, unless a size in image pixels is beyond
the largest double. -/
namespace Pageflow.Capture

variable (h : Heights)

/-! ## In the order of the tiles -/

/-- The crops come in the order of their tiles, each tile at most once. -/
theorem plan_pairwise (tiles : List Int) : (plan h tiles).Pairwise (·.tile < ·.tile) := by
  have hnumbers : tiles.zipIdx.Pairwise (·.2 < ·.2) := by
    apply List.Pairwise.of_map Prod.snd (fun _ _ => id)
    rw [List.zipIdx_map_snd]
    exact List.pairwise_lt_range'
  rw [plan_eq_filterMap, List.pairwise_filterMap]
  refine hnumbers.imp fun hlt first hfirst later hlater => ?_
  obtain ⟨-, rfl⟩ := fit_eq_some_iff.mp hfirst
  obtain ⟨-, rfl⟩ := fit_eq_some_iff.mp hlater
  exact hlt

/-- A tile is cropped exactly if it has any of the rows that are wanted of it. -/
theorem exists_crop_iff {tiles : List Int} {index : Nat} {tileHeight : Int}
    (htile : tiles[index]? = some tileHeight) :
    (∃ crop ∈ plan h tiles, crop.tile = index) ↔
      0 < available tileHeight (h.wantedOf tiles index) := by
  simp only [plan_eq_filterMap, List.mem_filterMap, fit_eq_some_iff]
  constructor
  · rintro ⟨_, ⟨⟨other, _⟩, hother, hpos, rfl⟩, rfl⟩
    obtain rfl : other = tileHeight :=
      Option.some.inj ((List.mk_mem_zipIdx_iff_getElem?.mp hother).symm.trans htile)
    exact hpos
  · intro hpos
    exact ⟨_, ⟨(tileHeight, index), List.mk_mem_zipIdx_iff_getElem?.mpr htile, hpos, rfl⟩, rfl⟩

/-! ## Which tiles are cropped -/

/-- The row at which the crop of a tile begins unless it is the last. -/
def Heights.start (index : Nat) : Int := if index = 0 then 0 else max 0 h.overlap

theorem available_early_iff (index : Nat) (composed tileHeight : Int) :
    0 < available tileHeight (h.wanted index false composed) ↔ h.start index < tileHeight := by
  simp only [available, Heights.wanted, Heights.start, Heights.advance, Bool.false_eq_true,
    ↓reduceIte]
  split_ifs <;> dsimp only <;> omega

/-- The rows that the tiles before the last leave to it. -/
def Heights.left (tiles : List Int) : Int := h.total - h.givenBefore 0 tiles

/-- The crops are a valid plan for the tiles: each is of rows of a tile that is there, they come in
the order of the tiles, and the only tiles without one are those that end above where it would
begin, and the last one also if nothing is left for it. -/
structure Plans (tiles : List Int) (crops : List Crop) : Prop where
  within : ∀ crop ∈ crops, crop.Within tiles
  increasing : crops.Pairwise (·.tile < ·.tile)
  early_iff : ∀ {index tileHeight}, tiles[index]? = some tileHeight → index + 1 < tiles.length →
    ((∃ crop ∈ crops, crop.tile = index) ↔ h.start index < tileHeight)
  last_iff : ∀ {index tileHeight}, tiles[index]? = some tileHeight → index + 1 = tiles.length →
    ((∃ crop ∈ crops, crop.tile = index) ↔
      0 < h.left tiles ∧ max 0 (h.viewport - h.left tiles) < tileHeight)

theorem plans_plan (tiles : List Int) : Plans h tiles (plan h tiles) where
  within := plan_within h tiles
  increasing := plan_pairwise h tiles
  early_iff htile hearly := by
    rw [exists_crop_iff h htile, Heights.wantedOf, beq_false_of_ne hearly.ne, available_early_iff]
  last_iff htile hlast := by
    rw [exists_crop_iff h htile, Heights.wantedOf, hlast, beq_self_eq_true]
    simp only [available, Heights.wanted, ↓reduceIte, Heights.left, lt_min_iff, sub_pos]

/-! ## Numbers of any size -/

/-- The sizes and the ratio are these numbers. -/
structure Scale.Measures (s : Scale) (content viewport overlap ratio : Rat) : Prop where
  content_eq : s.content.value? = some content
  viewport_eq : s.viewport.value? = some viewport
  overlap_eq : s.overlap.value? = some overlap
  ratio_eq : s.ratio.value? = some ratio

/-- The factor from CSS pixels to image pixels: a ratio of zero counts as one. -/
def factor (ratio : Rat) : Rat := if ratio = 0 then 1 else ratio

def pixelOverflow : Fault := .foreign "OverflowError" "cannot convert float infinity to integer"

/-- A size has its image pixels unless it is scaled beyond the largest double. -/
theorem toPixels_of_value {size ratio : Double} {p q : Rat} (hsize : size.value? = some p)
    (hratio : ratio.value? = some q) :
    (|p * q| < Double.overflow → ∃ n, toPixels size ratio = .ok n) ∧
      (Double.overflow ≤ |p * q| → toPixels size ratio = .error pixelOverflow) := by
  unfold toPixels
  rw [Double.mul_eq_nearest hsize hratio]
  constructor
  · intro hbelow
    obtain ⟨r, hr, hlargest⟩ := Double.nearest_of_lt_overflow hbelow
    obtain ⟨n, hn⟩ := Double.exists_roundHalfUp? hlargest
    exact ⟨n, by simp only [hr, hn]⟩
  · intro habove
    simp only [Double.nearest_of_overflow_le habove, Double.roundHalfUp?_infinite]
    rfl

theorem value?_factor {ratio : Double} {q : Rat} (hratio : ratio.value? = some q) :
    (if ratio.isZero then Double.ofInt 1 else ratio).value? = some (factor q) := by
  have hzero := Double.isZero_eq_decide hratio
  by_cases hq : q = 0
  · rw [hzero, factor, if_pos hq, if_pos (by simpa using hq), Double.ofInt_eq_finite 1 (by decide)]
    rfl
  · rw [hzero, factor, if_neg hq, if_neg (by simpa using hq), hratio]

variable {s : Scale} {content viewport overlap ratio : Rat}

/-- The heights of a scale whose sizes and ratio are numbers: none of them may be scaled beyond the
largest double. -/
theorem heights_of_measures (hs : s.Measures content viewport overlap ratio) :
    if ∀ size ∈ [content, viewport, overlap], |size * factor ratio| < Double.overflow then
      ∃ h, s.heights = .ok h
    else s.heights = .error pixelOverflow := by
  have hfactor := value?_factor hs.ratio_eq
  obtain ⟨htotal, hnoTotal⟩ := toPixels_of_value hs.content_eq hfactor
  obtain ⟨hvisible, hnoVisible⟩ := toPixels_of_value hs.viewport_eq hfactor
  obtain ⟨hshared, hnoShared⟩ := toPixels_of_value hs.overlap_eq hfactor
  unfold Scale.heights
  dsimp only
  generalize (if s.ratio.isZero then Double.ofInt 1 else s.ratio) = scale at *
  simp only [List.forall_mem_cons, List.not_mem_nil, false_implies, implies_true, and_true]
  split_ifs with hbelow
  · obtain ⟨total, htotal⟩ := htotal hbelow.1
    obtain ⟨visible, hvisible⟩ := hvisible hbelow.2.1
    obtain ⟨shared, hshared⟩ := hshared hbelow.2.2
    refine ⟨⟨total, visible, shared⟩, ?_⟩
    rw [htotal, hvisible, hshared]
    rfl
  · -- The first size beyond the largest double fails; those before it have their pixels.
    by_cases hcontent : |content * factor ratio| < Double.overflow
    · obtain ⟨total, htotal⟩ := htotal hcontent
      by_cases hviewport : |viewport * factor ratio| < Double.overflow
      · obtain ⟨visible, hvisible⟩ := hvisible hviewport
        have hoverlap : Double.overflow ≤ |overlap * factor ratio| :=
          not_lt.mp fun hoverlap => hbelow ⟨hcontent, hviewport, hoverlap⟩
        rw [htotal, hvisible, hnoShared hoverlap]
        rfl
      · rw [htotal, hnoVisible (not_lt.mp hviewport)]
        rfl
    · rw [hnoTotal (not_lt.mp hcontent)]
      rfl

/-- The crops of tiles of any heights, for any numbers as sizes and ratio, are a valid plan for the
tiles: each lies within a tile that is there and has at least one row, and no tile comes before an
earlier one or twice. There is a plan unless a size in image pixels is beyond the largest double. -/
theorem plan_valid (hs : s.Measures content viewport overlap ratio) (tiles : List Int) :
    if ∀ size ∈ [content, viewport, overlap], |size * factor ratio| < Double.overflow then
      ∃ h, s.heights = .ok h ∧ Plans h tiles (plan h tiles)
    else s.heights = .error pixelOverflow := by
  have hheights := heights_of_measures hs
  split_ifs at hheights ⊢ with hbelow
  · obtain ⟨h, hheights⟩ := hheights
    exact ⟨h, hheights, plans_plan h tiles⟩
  · exact hheights

/-- At a ratio of five quarters the second tile ends within the overlap, the fourth is empty, and
the third is higher than the viewport. -/
theorem plan_valid_uneven :
    (wholeScale 550 300 50 (5 / 4)).heights = .ok ⟨688, 375, 63⟩ ∧
      plan ⟨688, 375, 63⟩ [375, 20, 400, 0, 375] = [⟨0, 0, 312⟩, ⟨2, 63, 312⟩, ⟨4, 311, 64⟩] ∧
      Plans ⟨688, 375, 63⟩ [375, 20, 400, 0, 375] [⟨0, 0, 312⟩, ⟨2, 63, 312⟩, ⟨4, 311, 64⟩] := by
  have hheights : (wholeScale 550 300 50 (5 / 4)).heights = .ok ⟨688, 375, 63⟩ := by decide +kernel
  have hplan : plan ⟨688, 375, 63⟩ [375, 20, 400, 0, 375] =
      [⟨0, 0, 312⟩, ⟨2, 63, 312⟩, ⟨4, 311, 64⟩] := by decide
  have hs : (wholeScale 550 300 50 (5 / 4)).Measures 550 300 50 (5 / 4) := by
    constructor <;> decide +kernel
  have hvalid := plan_valid hs [375, 20, 400, 0, 375]
  have hbelow : ∀ size ∈ [(550 : Rat), 300, 50], |size * factor (5 / 4)| < Double.overflow := by
    have hlarge : (1000 : Rat) < Double.overflow := by
      rw [Double.overflow, Double.limit_eq]
      linarith [Double.one_lt_topPlace]
    have hsmall : ∀ size ∈ [(550 : Rat), 300, 50], |size * factor (5 / 4)| ≤ 1000 := by
      decide +kernel
    exact fun size hsize => (hsmall size hsize).trans_lt hlarge
  rw [if_pos hbelow] at hvalid
  obtain ⟨h, hok, hplans⟩ := hvalid
  obtain rfl := Except.ok.inj (hheights.symm.trans hok)
  rw [hplan] at hplans
  exact ⟨hheights, hplan, hplans⟩

end Pageflow.Capture
