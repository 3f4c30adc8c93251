import Mathlib.Tactic.Ring
import Pageflow.Proofs.Capture.Crops

/-! The plan for tiles that are all as high as the viewport, as scrolling by the
advance to the bottom produces them. Every tile but the last gives the advance,
and the last one gives what is left, as far as it shows it. -/
namespace Pageflow.Capture

namespace Heights

/-- The rows that the last tile still has to give. -/
def remaining (h : Heights) (scrolls : Nat) : Int := h.total - scrolls * (h.viewport - h.overlap)

/-- The overlap is smaller than the viewport, and after `scrolls` advances there
still is content left for the last tile. -/
structure Covered (h : Heights) (scrolls : Nat) : Prop where
  overlap_nonneg : 0 ≤ h.overlap
  overlap_lt : h.overlap < h.viewport
  remaining_pos : 0 < h.remaining scrolls

/-- The crop of a tile that is not the last one. -/
def early (h : Heights) (index : Nat) : Crop :=
  ⟨index, if index = 0 then 0 else h.overlap, h.viewport - h.overlap⟩

/-- The crop of the last tile: its last rows, all of them if more is left. -/
def final (h : Heights) (scrolls : Nat) : Crop :=
  ⟨scrolls, max 0 (h.viewport - h.remaining scrolls), min h.viewport (h.remaining scrolls)⟩

variable {h : Heights} {scrolls : Nat}

theorem advance_eq (hlt : h.overlap < h.viewport) : h.advance = h.viewport - h.overlap := by
  unfold advance
  omega

end Heights

variable {h : Heights} {scrolls : Nat}

/-- What fits into its tile is taken as it is wanted. -/
theorem fit_eq_some (index : Nat) (tileHeight top height : Int) (htop : 0 ≤ top)
    (hheight : 0 < height) (hfits : top + height ≤ tileHeight) :
    fit index tileHeight (top, height) = some ⟨index, top, height⟩ := by
  have hall : available tileHeight (top, height) = height := by
    simp only [available]
    omega
  rw [fit_eq, hall, if_neg (by omega), max_eq_right htop]

/-- Of the last rows, `height` of them, a tile gives as many as it has. -/
theorem fit_last (index : Nat) (tileHeight height : Int) (htile : 0 < tileHeight)
    (hheight : 0 < height) :
    fit index tileHeight (tileHeight - height, height) =
      some ⟨index, max 0 (tileHeight - height), min tileHeight height⟩ := by
  have hall : available tileHeight (tileHeight - height, height) = min tileHeight height := by
    simp only [available]
    omega
  rw [fit_eq, hall, if_neg (by omega)]

theorem planFrom_last (hc : h.Covered scrolls) :
    planFrom h scrolls (scrolls * (h.viewport - h.overlap)) [h.viewport] = [h.final scrolls] := by
  have hlt := hc.overlap_lt
  have hnonneg := hc.overlap_nonneg
  have hfit := fit_last scrolls h.viewport (h.remaining scrolls) (by omega) hc.remaining_pos
  unfold Heights.final
  rw [planFrom, Heights.wanted]
  simp only [List.isEmpty_nil, ↓reduceIte]
  unfold Heights.remaining at hfit ⊢
  rw [hfit]
  rfl

/-- Before the last tile each one gives an advance. -/
theorem planFrom_replicate_early (hnonneg : 0 ≤ h.overlap) (hlt : h.overlap < h.viewport)
    (left index : Nat) (hindex : index + left = scrolls) :
    planFrom h index (index * (h.viewport - h.overlap)) (List.replicate (left + 1) h.viewport) =
      (List.range' index left).map h.early ++
        planFrom h scrolls (scrolls * (h.viewport - h.overlap)) [h.viewport] := by
  -- Every tile before has given an advance: what is composed so far goes with the index.
  induction left generalizing index with
  | zero =>
    obtain rfl : index = scrolls := by omega
    rfl
  | succ left ih =>
    have hfit : fit index h.viewport (h.wanted index false (index * (h.viewport - h.overlap))) =
        some (h.early index) := by
      unfold Heights.wanted Heights.early
      rw [Heights.advance_eq hlt]
      by_cases hfirst : index = 0
      · simp only [Bool.false_eq_true, ↓reduceIte, hfirst]
        exact fit_eq_some _ _ _ _ (by omega) (by omega) (by omega)
      · simp only [Bool.false_eq_true, ↓reduceIte, hfirst]
        exact fit_eq_some _ _ _ _ (by omega) (by omega) (by omega)
    have hsum : (index : Int) * (h.viewport - h.overlap) + (h.early index).height =
        ((index + 1 : Nat) : Int) * (h.viewport - h.overlap) := by
      unfold Heights.early
      push_cast
      ring
    rw [List.replicate_succ, planFrom]
    simp only [List.isEmpty_replicate, Nat.add_eq_zero_iff, Nat.one_ne_zero, and_false,
      decide_false, hfit]
    rw [hsum, ih (index + 1) (by omega), List.range'_succ, List.map_cons, List.cons_append]

theorem planFrom_replicate (hc : h.Covered scrolls) (left index : Nat)
    (hindex : index + left = scrolls) :
    planFrom h index (index * (h.viewport - h.overlap)) (List.replicate (left + 1) h.viewport) =
      (List.range' index left).map h.early ++ [h.final scrolls] := by
  rw [planFrom_replicate_early hc.overlap_nonneg hc.overlap_lt left index hindex, planFrom_last hc]

/-- Each tile but the last gives an advance, the first one its first rows and
the others the rows behind the overlap; the last tile gives what is left. -/
theorem plan_replicate (hc : h.Covered scrolls) :
    plan h (List.replicate (scrolls + 1) h.viewport) =
      (List.range scrolls).map h.early ++ [h.final scrolls] := by
  have hplan := planFrom_replicate hc scrolls 0 (Nat.zero_add _)
  rwa [Nat.cast_zero, Int.zero_mul, ← List.range_eq_range'] at hplan

end Pageflow.Capture
