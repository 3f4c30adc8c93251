import Mathlib.Order.Bounds.Basic
import Pageflow.Proofs.Capture.Plan
import Pageflow.Proofs.Number.Double

/-! How high the planned crops of a long capture are together, whatever the pixel ratio. The
content, the visible height and the overlap are rounded to image pixels one by one: the advance
between their roundings, taken once for each scroll, may fall behind the content or run ahead of
it. -/
namespace Pageflow.Capture

/-! ## Heights in image pixels -/

/-- A height in image pixels, rounded half up. -/
def pixels (size : Int) (ratio : Rat) : Int := ⌊size * ratio + 1 / 2⌋

/-- A height that doubles hold once it is scaled, and with the half that rounding adds to it. -/
structure Exact (size : Int) (ratio : Rat) : Prop where
  scaled : Double.ofInt size * .finite ratio = .finite (size * ratio)
  half : Double.nearest (size * ratio + 1 / 2) = .finite (size * ratio + 1 / 2)

variable {size : Int} {ratio : Rat}

theorem Exact.toPixels (h : Exact size ratio) :
    toPixels (Double.ofInt size) (.finite ratio) = .ok (pixels size ratio) := by
  have hround : (Double.finite (size * ratio)).roundHalfUp? = some (pixels size ratio) := by
    rw [Double.roundHalfUp?_finite, h.half]
    rfl
  unfold Capture.toPixels
  rw [h.scaled]
  simp only [hround]

/-- A fraction over a power of two is held if its numerator has at most 53 bits. -/
theorem nearest_div_two_pow (n : Int) (exponent : Nat) (hexponent : exponent ≤ 1074)
    (hsize : n.natAbs < 2 ^ 53) :
    Double.nearest ((n : Rat) / 2 ^ exponent) = .finite ((n : Rat) / 2 ^ exponent) := by
  have hfraction : (n : Rat) / 2 ^ exponent = Rat.divInt n ((2 ^ exponent : Nat) : Int) := by
    rw [Rat.divInt_eq_div]
    norm_cast
  have hden : ((n : Rat) / 2 ^ exponent).den ∣ 2 ^ exponent := by
    rw [hfraction]
    exact Int.natCast_dvd_natCast.mp (Rat.den_dvd _ _)
  obtain ⟨least, hleast, hpow⟩ := (Nat.dvd_prime_pow Nat.prime_two).mp hden
  refine Double.nearest_eq_finite _ least hpow (hleast.trans hexponent) ?_
  have hnum : ((n : Rat) / 2 ^ exponent).num ∣ n := by
    rw [hfraction]
    exact Rat.num_dvd _ (by positivity)
  rcases eq_or_ne n 0 with rfl | hn
  · simp
  · exact (Nat.le_of_dvd (Int.natAbs_pos.mpr hn) (Int.natAbs_dvd_natAbs.mpr hnum)).trans_lt hsize

/-- Ratios over a power of two scale without loss, so multiples of an eighth do for all heights of
32 bits. -/
theorem exact_of_dyadic {n exponent : Nat} (hn : 0 < n) (hexponent : exponent ≤ 51)
    (h : size.natAbs * n ≤ 2 ^ 52) : Exact size (n / 2 ^ (exponent + 1)) := by
  have hsize : size.natAbs ≤ 2 ^ 52 := (Nat.le_mul_of_pos_right _ hn).trans h
  have hproduct : (size * n).natAbs ≤ 2 ^ 52 := by rwa [Int.natAbs_mul, Int.natAbs_natCast]
  have hscaled : (size : Rat) * (n / 2 ^ (exponent + 1)) =
      ((size * n : Int) : Rat) / 2 ^ (exponent + 1) := by
    push_cast
    ring
  constructor
  case scaled =>
    rw [Double.ofInt_eq_finite size (by omega)]
    change Double.nearest (size * (n / 2 ^ (exponent + 1))) = _
    rw [hscaled]
    exact nearest_div_two_pow _ _ (by omega) (by omega)
  case half =>
    have hbits : (size * n + (2 ^ exponent : Nat) : Int).natAbs < 2 ^ 53 := by
      have hpow : 2 ^ exponent ≤ 2 ^ 51 := Nat.pow_le_pow_right Nat.two_pos hexponent
      generalize 2 ^ exponent = half at hpow ⊢
      omega
    have hsum : (size : Rat) * (n / 2 ^ (exponent + 1)) + 1 / 2 =
        ((size * n + (2 ^ exponent : Nat) : Int) : Rat) / 2 ^ (exponent + 1) := by
      rw [hscaled, pow_succ]
      push_cast
      field_simp
    rw [hsum]
    exact nearest_div_two_pow _ _ (by omega) hbits

theorem pixels_nonneg (hsize : 0 ≤ size) (hratio : 0 < ratio) : 0 ≤ pixels size ratio := by
  have hscaled : 0 ≤ (size : Rat) * ratio := mul_nonneg (Int.cast_nonneg hsize) hratio.le
  exact Int.floor_nonneg.mpr (by linarith)

/-! ## The planned heights -/

/-- A tile before the last gives an advance, whichever it is. -/
theorem gives_viewport {h : Heights} (hnonneg : 0 ≤ h.overlap) (hlt : h.overlap < h.viewport)
    (index : Nat) : h.gives index h.viewport = h.viewport - h.overlap := by
  simp only [Heights.gives, Heights.wanted, available, Heights.advance_eq hlt, Bool.false_eq_true,
    ↓reduceIte]
  split <;> omega

theorem givenBefore_replicate {h : Heights} (hnonneg : 0 ≤ h.overlap)
    (hlt : h.overlap < h.viewport) (scrolls : Nat) :
    h.givenBefore 0 (List.replicate (scrolls + 1) h.viewport) =
      scrolls * (h.viewport - h.overlap) := by
  have hsame : ∀ tile ∈ (List.replicate scrolls h.viewport).zipIdx,
      h.gives tile.2 tile.1 = h.viewport - h.overlap := by
    intro tile hmem
    rw [List.eq_of_mem_replicate (List.fst_mem_of_mem_zipIdx hmem), gives_viewport hnonneg hlt]
  rw [Heights.givenBefore, List.dropLast_replicate, Nat.add_sub_cancel, List.map_congr_left hsame,
    List.map_const', List.length_zipIdx, List.length_replicate, List.sum_replicate, nsmul_eq_mul]

/-- The tiles before the last give an advance each; the last one gives what is left, as far as it
has it. -/
theorem sum_plan_replicate {h : Heights} (hnonneg : 0 ≤ h.overlap)
    (hlt : h.overlap < h.viewport) (scrolls : Nat) :
    ((plan h (List.replicate (scrolls + 1) h.viewport)).map (·.height)).sum =
      scrolls * (h.viewport - h.overlap) + max 0 (min h.viewport (h.remaining scrolls)) := by
  rw [sum_plan h h.viewport _ (by simp [List.getLast?_replicate]),
    givenBefore_replicate hnonneg hlt, ← Heights.remaining]
  simp only [Heights.givesLast, available]
  omega

/-- The measures of an element whose heights are whole, at any pixel ratio. -/
def wholeScale (content client overlap : Int) (ratio : Rat) : Scale :=
  ⟨Double.ofInt content, Double.ofInt client, Double.ofInt overlap, .finite ratio⟩

/-- The heights of an element in image pixels, rounded one by one. -/
def wholeHeights (content client overlap : Int) (ratio : Rat) : Heights :=
  ⟨pixels content ratio, pixels client ratio, pixels overlap ratio⟩

variable {content client overlap : Int}

theorem heights_wholeScale (hratio : 0 < ratio) (hcontent : Exact content ratio)
    (hclient : Exact client ratio) (hoverlap : Exact overlap ratio) :
    (wholeScale content client overlap ratio).heights =
      .ok (wholeHeights content client overlap ratio) := by
  have hzero : (Double.finite ratio).isZero = false := by
    simp only [Double.isZero, Rat.num_eq_zero, hratio.ne', decide_false]
  unfold wholeScale Scale.heights
  simp only [hzero, Bool.false_eq_true, ↓reduceIte, hcontent.toPixels, hclient.toPixels,
    hoverlap.toPixels]
  rfl

/-- The least number of advances that reach the end does not go beyond the content. -/
theorem least_mul_le {k : Nat} (hcontent : 0 ≤ content) (hoverlap : 0 ≤ overlap)
    (hk : IsLeast {n : Nat | content - client ≤ n * (client - overlap)} k) :
    k * (client - overlap) ≤ content := by
  cases k with
  | zero => rwa [Nat.cast_zero, Int.zero_mul]
  | succ k =>
    have hshort : ¬ content - client ≤ (k : Int) * (client - overlap) :=
      fun hreach => absurd (hk.2 hreach) (Nat.not_succ_le_self k)
    push_cast
    linarith

/-- Where the advance is a whole number of image pixels, the least number of scrolls to the end
neither leaves anything of the content nor goes beyond it. -/
theorem remaining_of_whole_advance {k : Nat} {advance : Int} (hcontent : 0 ≤ content)
    (hoverlap : 0 ≤ overlap) (hratio : 0 < ratio)
    (hwhole : ((client - overlap : Int) : Rat) * ratio = advance)
    (hk : IsLeast {n : Nat | content - client ≤ n * (client - overlap)} k) :
    0 ≤ (wholeHeights content client overlap ratio).remaining k ∧
      (wholeHeights content client overlap ratio).remaining k ≤ pixels client ratio := by
  have hclient : pixels client ratio - pixels overlap ratio = advance := by
    have hsum : (client : Rat) * ratio + 1 / 2 = overlap * ratio + 1 / 2 + advance := by
      rw [← hwhole]
      push_cast
      ring
    unfold pixels
    rw [hsum, Int.floor_add_intCast]
    ring
  have hscrolled : ((k * advance : Int) : Rat) = ((k * (client - overlap) : Int) : Rat) * ratio := by
    push_cast at hwhole ⊢
    rw [← hwhole]
    ring
  have hwithin : k * advance ≤ pixels content ratio := by
    have hscaled := mul_le_mul_of_nonneg_right
      (Int.cast_le (R := Rat).mpr (least_mul_le hcontent hoverlap hk)) hratio.le
    refine Int.le_floor.mpr ?_
    rw [hscrolled]
    linarith
  have hreach : pixels content ratio ≤ k * advance + pixels client ratio := by
    have hend : content ≤ k * (client - overlap) + client := by linarith [hk.1.out]
    have hscaled := mul_le_mul_of_nonneg_right (Int.cast_le (R := Rat).mpr hend) hratio.le
    unfold pixels
    rw [← Int.floor_intCast_add, hscrolled]
    refine Int.floor_mono ?_
    push_cast at hscaled ⊢
    linarith
  unfold wholeHeights Heights.remaining
  simp only [hclient]
  exact ⟨Int.sub_nonneg.mpr hwithin, by linarith⟩

/-- The planned heights sum to the content exactly if what is left for the last tile is neither
negative nor more than a tile. -/
theorem sum_plan_eq_total_iff {h : Heights} (hnonneg : 0 ≤ h.overlap) (hlt : h.overlap < h.viewport)
    (scrolls : Nat) :
    ((plan h (List.replicate (scrolls + 1) h.viewport)).map (·.height)).sum = h.total ↔
      0 ≤ h.remaining scrolls ∧ h.remaining scrolls ≤ h.viewport := by
  rw [sum_plan_replicate hnonneg hlt]
  unfold Heights.remaining
  generalize (scrolls : Int) * (h.viewport - h.overlap) = advanced
  omega

/-- For every pixel ratio the planned heights sum to the content exactly if the rounded advance,
taken once for each scroll, neither goes beyond the rounded content nor leaves more of it than a
tile shows; they always do where the advance is a whole number of image pixels. -/
theorem sum_plan_eq_content_iff (hoverlap : 1 ≤ overlap) (hclient : overlap < client)
    (hcontent : client < content) (hratio : 0 < ratio) (hcontentExact : Exact content ratio)
    (hclientExact : Exact client ratio) (hoverlapExact : Exact overlap ratio)
    (hrounded : pixels overlap ratio < pixels client ratio) {k : Nat}
    (hk : IsLeast {n : Nat | content - client ≤ n * (client - overlap)} k) :
    (wholeScale content client overlap ratio).heights =
        .ok (wholeHeights content client overlap ratio) ∧
      (((plan (wholeHeights content client overlap ratio)
          (List.replicate (k + 1) (pixels client ratio))).map (·.height)).sum =
            pixels content ratio ↔
        k * (pixels client ratio - pixels overlap ratio) ≤ pixels content ratio ∧
        pixels content ratio ≤
          k * (pixels client ratio - pixels overlap ratio) + pixels client ratio) ∧
      ((∃ advance : Int, ((client - overlap : Int) : Rat) * ratio = advance) →
        ((plan (wholeHeights content client overlap ratio)
          (List.replicate (k + 1) (pixels client ratio))).map (·.height)).sum =
            pixels content ratio) := by
  have hiff : ((plan (wholeHeights content client overlap ratio)
        (List.replicate (k + 1) (pixels client ratio))).map (·.height)).sum =
          pixels content ratio ↔
      0 ≤ (wholeHeights content client overlap ratio).remaining k ∧
        (wholeHeights content client overlap ratio).remaining k ≤ pixels client ratio :=
    sum_plan_eq_total_iff (pixels_nonneg (by omega) hratio) hrounded k
  refine ⟨heights_wholeScale hratio hcontentExact hclientExact hoverlapExact, ?_, ?_⟩
  · rw [hiff, Heights.remaining, wholeHeights, sub_nonneg, sub_le_iff_le_add']
  · rintro ⟨advance, hwhole⟩
    exact hiff.mpr (remaining_of_whole_advance (by omega) (by omega) hratio hwhole hk)

/-- At a ratio of five quarters two tiles hold all of 562.5 pixels of content. -/
theorem sum_plan_eq_content_iff_fits :
    IsLeast {n : Nat | (450 - 300 : Int) ≤ n * (300 - 50)} 1 ∧
    (wholeScale 450 300 50 (5 / 4)).heights = .ok (wholeHeights 450 300 50 (5 / 4)) ∧
    ((plan (wholeHeights 450 300 50 (5 / 4)) (List.replicate 2 375)).map (·.height)).sum = 563 := by
  have hleast : IsLeast {n : Nat | (450 - 300 : Int) ≤ n * (300 - 50)} 1 := by
    refine ⟨by decide, fun n hn => ?_⟩
    change (450 - 300 : Int) ≤ n * (300 - 50) at hn
    omega
  have hratio : (5 / 4 : Rat) = ((5 : Nat) : Rat) / 2 ^ (1 + 1) := by norm_num
  have hexact : ∀ size : Int, size.natAbs ≤ 450 → Exact size (5 / 4) := by
    intro size hsize
    rw [hratio]
    exact exact_of_dyadic (by decide) (by decide) (by omega)
  have hclient : pixels 300 (5 / 4) = 375 := by decide +kernel
  have hoverlap : pixels 50 (5 / 4) = 63 := by decide +kernel
  have hcontent : pixels 450 (5 / 4) = 563 := by decide +kernel
  obtain ⟨hheights, hiff, -⟩ := sum_plan_eq_content_iff (by decide) (by decide) (by decide)
    (by decide +kernel) (hexact 450 (by decide)) (hexact 300 (by decide)) (hexact 50 (by decide))
    (by rw [hclient, hoverlap]; decide) hleast
  rw [hclient, hoverlap, hcontent] at hiff
  exact ⟨hleast, hheights, hiff.mpr (by decide)⟩

/-- With 687.5 pixels of content they are a row short, as the advance of 312.5 pixels is rounded
to 312. -/
theorem sum_plan_short :
    IsLeast {n : Nat | (550 - 300 : Int) ≤ n * (300 - 50)} 1 ∧
    pixels 50 (5 / 4) < pixels 300 (5 / 4) ∧
    (wholeScale 550 300 50 (5 / 4)).heights = .ok (wholeHeights 550 300 50 (5 / 4)) ∧
    ((plan (wholeHeights 550 300 50 (5 / 4))
      (List.replicate 2 (pixels 300 (5 / 4)))).map (·.height)).sum = 687 ∧
    pixels 550 (5 / 4) = 688 := by
  refine ⟨⟨by decide, fun n hn => ?_⟩, by decide +kernel, by decide +kernel, by decide +kernel,
    by decide +kernel⟩
  change (550 - 300 : Int) ≤ n * (300 - 50) at hn
  omega

end Pageflow.Capture
