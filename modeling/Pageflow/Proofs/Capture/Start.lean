import Mathlib.Order.Interval.Set.Defs
import Pageflow.Proofs.Capture.Content

/-! What a long capture owes to where the element stands when it begins. The tiles are taken from
there on, and nothing scrolls the element back: the first row shown is the one at the top of what
is visible, so captures from two positions never show the same rows. -/
namespace Pageflow.Capture
open Browser

namespace Region

variable {r : Region} {overlap start : Nat}

/-- At its end a region gives all that is visible, before that an advance. -/
theorem given_zero_head? (hoverlap : overlap < r.client) (hstart : start ≤ r.limit) :
    (r.given overlap start 0).head? = some (start * r.ratio) := by
  rcases Nat.eq_zero_or_pos (r.scrollsFrom overlap start) with hzero | hpos
  · have hlimit : r.limit ≤ start + r.scrollsFrom overlap start * (r.client - overlap) :=
      limit_le_scrollsFrom hoverlap
    have hrow : r.lastRow overlap start = start * r.ratio := by
      rw [hzero, Nat.zero_mul, Nat.add_zero] at hlimit
      unfold lastRow
      rw [hzero, Nat.zero_mul, Nat.max_zero, Nat.le_antisymm hlimit hstart]
    have hleft : 0 < r.content * r.ratio - r.lastRow overlap start :=
      Nat.sub_pos_of_lt (lastRow_lt hoverlap)
    rw [← hzero, given_scrollsFrom, List.head?_range', if_neg hleft.ne', hrow]
  · rw [given_of_lt hpos, stop_zero hstart, if_pos rfl, Nat.add_zero, List.head?_range',
      if_neg (step_pos hoverlap).ne']

/-- The first row shown is the first one visible at the beginning. -/
theorem rowsFrom_head? (hoverlap : overlap < r.client) (hstart : start ≤ r.limit) :
    (r.rowsFrom overlap start).head? = some (start * r.ratio) := by
  unfold rowsFrom
  rw [List.range_succ_eq_map, List.flatMap_cons,
    List.head?_append_of_ne_nil _ (given_ne_nil hoverlap 0), given_zero_head? hoverlap hstart]

namespace Shown

variable {W : Type} {env : Responses State Ask Ask.Reply W} {top : W → Nat}
  {page : PageRef} {selector : String} {element : ElementRef} {o : LongOptions}

/-- As many tiles as the capture from the top needs are enough from every position. -/
theorem run_captureLong_start (h : r.Shown env top page selector element)
    (ho : o.overlap = overlap) (hoverlap : overlap < r.client)
    (htiles : r.scrolls overlap + 1 ≤ o.maxTiles) (x : W × State)
    (hx : top x.1 ≤ r.content - r.client) : ((captureLong page o selector).run env x).1 =
      .ok (.image ⟨r.width, (r.rowsFrom overlap (top x.1)).map r.row⟩) := by
  have henough : r.scrollsFrom overlap (top x.1) ≤ r.scrolls overlap :=
    scrollsFrom_le_scrolls hoverlap
  obtain ⟨y, hcapture⟩ := h.noting_captureLong ho hoverlap hx (by omega) x rfl
  rw [hcapture.run]

/-- A long capture shows the rows from where the element stands, whatever the tiles that reach the
end are. Where no two rows of the content are alike, two captures give the same image exactly if
they begin at the same position. -/
theorem captureLong_same_iff (h : r.Shown env top page selector element) (ho : o.overlap = overlap)
    (hoverlap : overlap < r.client) (htiles : r.scrolls overlap + 1 ≤ o.maxTiles)
    (x y : W × State) (hx : top x.1 ≤ r.content - r.client) (hy : top y.1 ≤ r.content - r.client) :
    ((captureLong page o selector).run env x).1 =
        .ok (.image ⟨r.width, (r.rowsFrom overlap (top x.1)).map r.row⟩) ∧
      ((captureLong page o selector).run env y).1 =
        .ok (.image ⟨r.width, (r.rowsFrom overlap (top y.1)).map r.row⟩) ∧
      (Set.InjOn r.row (Set.Iio (r.content * r.ratio)) →
        (((captureLong page o selector).run env x).1 =
          ((captureLong page o selector).run env y).1 ↔ top x.1 = top y.1)) := by
  have hrunx := h.run_captureLong_start ho hoverlap htiles x hx
  have hruny := h.run_captureLong_start ho hoverlap htiles y hy
  refine ⟨hrunx, hruny, fun hdiffer => ?_⟩
  rw [hrunx, hruny]
  constructor
  · intro hsame
    have hrows : (r.rowsFrom overlap (top x.1)).map r.row =
        (r.rowsFrom overlap (top y.1)).map r.row := by
      injection hsame with hsame
      injection hsame with hsame
      injection hsame
    have hfirst := congrArg List.head? hrows
    rw [List.head?_map, List.head?_map, rowsFrom_head? hoverlap hx, rowsFrom_head? hoverlap hy,
      Option.map_some, Option.map_some, Option.some.injEq] at hfirst
    have hvisible : ∀ p ≤ r.content - r.client, p * r.ratio < r.content * r.ratio := by
      intro p hp
      have hclient := r.client_lt
      exact Nat.mul_lt_mul_of_pos_right (by omega) r.ratio_pos
    exact Nat.eq_of_mul_eq_mul_right r.ratio_pos
      (hdiffer (hvisible _ hx) (hvisible _ hy) hfirst)
  · intro hstart
    rw [hstart]

end Shown

/-- The first seven rows of the ruler, of which four are visible. -/
def shortRuler : Region :=
  { ruler with content := 7, client_lt := by decide, exact := by decide }

theorem shortRuler_row_injective : Function.Injective shortRuler.row := by
  intro i j hsame
  injection hsame with hsame
  injection hsame

theorem captureLong_same_iff_shortRuler :
    ((captureLong ⟨0⟩ { overlap := 1 } "#list").run (shortRuler.display ⟨⟨0⟩, "#list"⟩) (0, {})).1 =
        .ok (.image ⟨1, (shortRuler.rowsFrom 1 0).map shortRuler.row⟩) ∧
      ((captureLong ⟨0⟩ { overlap := 1 } "#list").run (shortRuler.display ⟨⟨0⟩, "#list"⟩)
        (3, {})).1 = .ok (.image ⟨1, (shortRuler.rowsFrom 1 3).map shortRuler.row⟩) ∧
      (((captureLong ⟨0⟩ { overlap := 1 } "#list").run (shortRuler.display ⟨⟨0⟩, "#list"⟩)
          (0, {})).1 =
        ((captureLong ⟨0⟩ { overlap := 1 } "#list").run (shortRuler.display ⟨⟨0⟩, "#list"⟩)
          (3, {})).1 ↔ 0 = 3) := by
  have hoverlap : ({ overlap := 1 } : LongOptions).overlap = (1 : Nat) := rfl
  obtain ⟨hfirst, hsecond, hsame⟩ :=
    (shortRuler.shown_display ⟨0⟩ "#list" ⟨⟨0⟩, "#list"⟩).captureLong_same_iff hoverlap (by decide)
      (by decide) (0, {}) (3, {}) (by decide) (by decide)
  exact ⟨hfirst, hsecond, hsame shortRuler_row_injective.injOn⟩

/-- From its end the ruler gives the last four rows only. -/
theorem captureLong_shortRuler :
    ((captureLong ⟨0⟩ { overlap := 1 } "#list").run (shortRuler.display ⟨⟨0⟩, "#list"⟩) (0, {})).1 =
        .ok (.image ⟨1, [0, 1, 2, 3, 4, 5, 6].map shortRuler.row⟩) ∧
      ((captureLong ⟨0⟩ { overlap := 1 } "#list").run (shortRuler.display ⟨⟨0⟩, "#list"⟩)
        (3, {})).1 = .ok (.image ⟨1, [3, 4, 5, 6].map shortRuler.row⟩) ∧
      [0, 1, 2, 3, 4, 5, 6].map shortRuler.row ≠ [3, 4, 5, 6].map shortRuler.row := by
  have hshown := shortRuler.shown_display ⟨0⟩ "#list" ⟨⟨0⟩, "#list"⟩
  have hall : shortRuler.rowsFrom 1 0 = [0, 1, 2, 3, 4, 5, 6] := by decide
  have hlast : shortRuler.rowsFrom 1 3 = [3, 4, 5, 6] := by decide
  rw [← hall, ← hlast]
  refine ⟨?_, ?_, by decide⟩
  · exact hshown.run_captureLong_start rfl (by decide) (by decide) (0, {}) (by decide)
  · exact hshown.run_captureLong_start rfl (by decide) (by decide) (3, {}) (by decide)

end Region
end Pageflow.Capture
