import Pageflow.Proofs.Capture.Rows

/-! Whether a long capture from the top shows the content. The rows that the stitched image has
are the content's exactly if one scroll reaches its end. -/
namespace Pageflow.Capture
open Browser

namespace Region

variable (r : Region) (overlap : Nat)

/-- The rows of the content that a long capture shows, from top to bottom: the
first advance, from each tile in the middle an advance behind the overlap, and
from the last tile what is left of the content. -/
def shownRows : List Nat :=
  List.range' 0 (r.step overlap) ++
    (List.range' 1 (r.scrolls overlap - 1)).flatMap (fun i =>
      List.range' (i * r.step overlap + overlap * r.ratio) (r.step overlap)) ++
    List.range' (r.scrolls overlap * r.step overlap)
      (r.content * r.ratio - r.scrolls overlap * r.step overlap)

variable {r overlap}

/-- From the top the last tile begins to give where the others have left off. -/
theorem lastRow_zero (hoverlap : overlap < r.client) :
    r.lastRow overlap 0 = r.scrolls overlap * r.step overlap := by
  have hlimit : r.limit * r.ratio ≤ 0 * r.ratio + r.scrollsFrom overlap 0 * r.step overlap :=
    limit_mul_ratio_le hoverlap
  rw [Nat.zero_mul, Nat.zero_add] at hlimit
  exact Nat.max_eq_right hlimit

theorem given_zero_of_lt {i : Nat} (hoverlap : overlap < r.client) (h : i < r.scrolls overlap) :
    r.given overlap 0 i =
      List.range' (i * r.step overlap + if i = 0 then 0 else overlap * r.ratio)
        (r.step overlap) := by
  rw [given_of_lt h, stop_of_lt hoverlap h, Nat.zero_add, mul_step]

theorem rowsFrom_zero (hoverlap : overlap < r.client) :
    r.rowsFrom overlap 0 = r.shownRows overlap := by
  have hpos := scrolls_pos hoverlap
  have hfirst : r.given overlap 0 0 = List.range' 0 (r.step overlap) := by
    rw [given_zero_of_lt hoverlap hpos, if_pos rfl, Nat.zero_mul]
  have hmiddle : ∀ i ∈ List.range' 1 (r.scrolls overlap - 1), r.given overlap 0 i =
      List.range' (i * r.step overlap + overlap * r.ratio) (r.step overlap) := by
    intro i hi
    obtain ⟨hone, hlt⟩ := List.mem_range'_1.mp hi
    rw [given_zero_of_lt hoverlap (by omega), if_neg (Nat.ne_of_gt hone)]
  have hrange : List.range (r.scrolls overlap) = 0 :: List.range' 1 (r.scrolls overlap - 1) := by
    rw [List.range_eq_range']
    conv_lhs => rw [← Nat.sub_add_cancel hpos, List.range'_succ]
  unfold rowsFrom shownRows
  rw [List.range_succ, List.flatMap_append, List.flatMap_singleton, given_scrollsFrom,
    lastRow_zero hoverlap, scrollsFrom_zero, hrange, List.flatMap_cons, hfirst,
    List.flatMap_congr hmiddle]

/-- With one scroll there are no tiles in the middle and nothing is lost. -/
theorem shownRows_of_scrolls_eq_one (hoverlap : overlap < r.client) (h : r.scrolls overlap = 1) :
    r.shownRows overlap = List.range (r.content * r.ratio) := by
  have hlast : r.scrollsFrom overlap 0 * r.step overlap < r.content * r.ratio :=
    scrollsFrom_mul_step_lt hoverlap
  rw [scrollsFrom_zero, h, Nat.one_mul] at hlast
  have hcut : r.step overlap + (r.content * r.ratio - r.step overlap) = r.content * r.ratio := by
    omega
  unfold shownRows
  rw [h, Nat.one_mul, Nat.sub_self, List.range'_zero, List.flatMap_nil, List.append_nil,
    List.range_eq_range', ← hcut, ← List.range'_append_1, hcut, Nat.zero_add]

/-- With two or more, the row behind the first advance is the row behind the
overlap of the second tile. -/
theorem shownRows_getElem?_step (hoverlap : overlap < r.client) (h : 2 ≤ r.scrolls overlap) :
    (r.shownRows overlap)[r.step overlap]? = some (r.step overlap + overlap * r.ratio) := by
  have hstep := step_pos hoverlap
  obtain ⟨middle, hmiddle⟩ : ∃ middle, r.scrolls overlap - 1 = middle + 1 :=
    ⟨r.scrolls overlap - 2, by omega⟩
  obtain ⟨less, hless⟩ : ∃ less, r.step overlap = less + 1 := ⟨r.step overlap - 1, by omega⟩
  unfold shownRows
  rw [hmiddle, List.range'_succ, List.flatMap_cons, Nat.one_mul, List.append_assoc,
    List.append_assoc, List.getElem?_append_right (by rw [List.length_range']),
    List.length_range', Nat.sub_self, hless, List.range'_succ]
  rfl

theorem scrolls_le_one_iff (hoverlap : overlap < r.client) :
    r.scrolls overlap ≤ 1 ↔ r.content + overlap ≤ 2 * r.client := by
  have hclient := r.client_lt
  constructor
  · intro h
    have hlimit := limit_le_scrolls hoverlap
    have hmul := Nat.mul_le_mul_right (r.client - overlap) h
    unfold limit at hlimit
    omega
  · intro h
    have hone : r.content - r.client ≤ 1 * (r.client - overlap) := by omega
    exact (isLeast_scrolls hoverlap).2 hone

/-- The rows shown are those of the content exactly if one scroll reaches its
end. -/
theorem shownRows_eq_range_iff (hpos : 1 ≤ overlap) (hoverlap : overlap < r.client) :
    r.shownRows overlap = List.range (r.content * r.ratio) ↔
      r.content + overlap ≤ 2 * r.client := by
  rw [← scrolls_le_one_iff hoverlap]
  have hscrolls := scrolls_pos hoverlap
  constructor
  · intro h
    by_contra hmore
    have hrow := shownRows_getElem?_step hoverlap (by omega)
    have hlast : 0 * r.ratio + 1 * r.step overlap < r.limit * r.ratio :=
      lt_limit_mul_ratio hoverlap (Nat.not_le.mp hmore)
    have hcontent := r.limit_mul_ratio
    rw [h, List.getElem?_range (by omega), Option.some.injEq] at hrow
    have hgap := Nat.mul_pos (show 0 < overlap from hpos) r.ratio_pos
    omega
  · intro h
    exact shownRows_of_scrolls_eq_one hoverlap (by omega)

namespace Shown

variable {W : Type} {env : Responses State Ask Ask.Reply W} {top : W → Nat}
  {page : PageRef} {selector : String} {element : ElementRef} {o : LongOptions}

/-- A long capture of an element that stands still at its top, with enough tiles
to reach the end, has the rows `shownRows`. -/
theorem run_captureLong (h : r.Shown env top page selector element) (ho : o.overlap = overlap)
    (hoverlap : overlap < r.client) (htiles : r.scrolls overlap + 1 ≤ o.maxTiles) (x : W × State)
    (hx : top x.1 = 0) : ((captureLong page o selector).run env x).1 =
      .ok (.image ⟨r.width, (r.shownRows overlap).map r.row⟩) := by
  obtain ⟨y, hcapture⟩ := h.noting_captureLong ho hoverlap (Nat.zero_le _) htiles x hx
  rw [hcapture.run, rowsFrom_zero hoverlap]

/-- The rows of a long capture are all rows of the content, once and in order,
exactly if content and overlap together are at most twice as high as what is
visible; else the row behind the first advance is not the next one. -/
theorem captureLong_shows_content_iff (h : r.Shown env top page selector element)
    (ho : o.overlap = overlap) (hpos : 1 ≤ overlap) (hoverlap : overlap < r.client)
    (htiles : r.scrolls overlap + 1 ≤ o.maxTiles) (x : W × State) (hx : top x.1 = 0) :
    ((captureLong page o selector).run env x).1 =
        .ok (.image ⟨r.width, (r.shownRows overlap).map r.row⟩) ∧
      (r.shownRows overlap = List.range (r.content * r.ratio) ↔
        r.content + overlap ≤ 2 * r.client) :=
  ⟨h.run_captureLong ho hoverlap htiles x hx, shownRows_eq_range_iff hpos hoverlap⟩

end Shown

/-- Ten rows of one pixel, each of a colour of its own, four of them visible. -/
def ruler : Region where
  content := 10
  client := 4
  ratio := 1
  width := 1
  row i := [⟨i, 0, 0, 255⟩]
  row_length _ := rfl
  ratio_pos := Nat.one_pos
  client_lt := by decide
  exact := by decide

theorem captureLong_shows_ruler_iff :
    ((captureLong ⟨0⟩ { overlap := 1 } "#list").run (ruler.display ⟨⟨0⟩, "#list"⟩) (0, {})).1 =
        .ok (.image ⟨1, (ruler.shownRows 1).map ruler.row⟩) ∧
      (ruler.shownRows 1 = List.range (10 * 1) ↔ 10 + 1 ≤ 2 * 4) :=
  (ruler.shown_display ⟨0⟩ "#list" ⟨⟨0⟩, "#list"⟩).captureLong_shows_content_iff rfl (by decide)
    (by decide) (by decide) (0, {}) rfl

/-- The fourth row of the ruler is missing and the seventh is there twice. -/
theorem captureLong_ruler :
    ((captureLong ⟨0⟩ { overlap := 1 } "#list").run (ruler.display ⟨⟨0⟩, "#list"⟩) (0, {})).1 =
        .ok (.image ⟨1, [0, 1, 2, 4, 5, 6, 6, 7, 8, 9].map ruler.row⟩) ∧
      [0, 1, 2, 4, 5, 6, 6, 7, 8, 9].map ruler.row ≠ (List.range 10).map ruler.row := by
  have hrows : ruler.shownRows 1 = [0, 1, 2, 4, 5, 6, 6, 7, 8, 9] := by decide
  rw [← hrows]
  refine ⟨?_, by decide⟩
  exact (ruler.shown_display ⟨0⟩ "#list" ⟨⟨0⟩, "#list"⟩).run_captureLong rfl (by decide)
    (by decide) (0, {}) rfl

end Region
end Pageflow.Capture
