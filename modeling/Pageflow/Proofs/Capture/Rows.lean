import Mathlib.Tactic.Ring
import Pageflow.Proofs.Capture.Plan
import Pageflow.Proofs.Capture.Stack
import Pageflow.Proofs.Capture.Tiles

/-! Which rows of the content a long capture shows, wherever the region stands when it begins. The
tiles lie one advance apart, and every tile in the middle gives its rows behind the overlap: the
rows of the stitched image are computed exactly, whether or not they are the content's. -/
namespace Pageflow.Capture
open Browser

namespace Region

variable (r : Region) (overlap start : Nat)

def heights : Heights :=
  { total := ((r.content * r.ratio : Nat) : Int)
    viewport := ((r.client * r.ratio : Nat) : Int)
    overlap := ((overlap * r.ratio : Nat) : Int) }

def step : Nat := (r.client - overlap) * r.ratio

/-- The row of the content at which the last tile begins to give: where all tiles
before have given an advance each, or its own first row if that lies behind. -/
def lastRow : Nat := max (r.limit * r.ratio) (r.scrollsFrom overlap start * r.step overlap)

/-- The rows of the content that the tile with this number gives, if the region stands at `start`
when the capture begins: an advance behind the overlap, of the first tile the first advance, and of
the last what is left of the content. -/
def given (index : Nat) : List Nat :=
  if index < r.scrollsFrom overlap start then
    List.range' (r.stop overlap start index * r.ratio +
      if index = 0 then 0 else overlap * r.ratio) (r.step overlap)
  else List.range' (r.lastRow overlap start) (r.content * r.ratio - r.lastRow overlap start)

/-- The rows of the content that a long capture from `start` shows, from top to bottom. -/
def rowsFrom : List Nat :=
  (List.range (r.scrollsFrom overlap start + 1)).flatMap (r.given overlap start)

variable {r overlap start}

theorem step_pos (hoverlap : overlap < r.client) : 0 < r.step overlap :=
  Nat.mul_pos (Nat.sub_pos_of_lt hoverlap) r.ratio_pos

theorem overlap_add_step (hoverlap : overlap < r.client) :
    overlap * r.ratio + r.step overlap = r.client * r.ratio := by
  unfold step
  rw [← Nat.add_mul, Nat.add_sub_cancel' hoverlap.le]

theorem limit_mul_ratio : r.limit * r.ratio + r.client * r.ratio = r.content * r.ratio := by
  rw [← Nat.add_mul, limit_add_client]

theorem mul_step (n : Nat) : n * r.step overlap = n * (r.client - overlap) * r.ratio :=
  (Nat.mul_assoc _ _ _).symm

/-- Before the last advance the region is not yet at its end. -/
theorem lt_limit_mul_ratio {n : Nat} (hoverlap : overlap < r.client)
    (h : n < r.scrollsFrom overlap start) :
    start * r.ratio + n * r.step overlap < r.limit * r.ratio := by
  rw [mul_step, ← Nat.add_mul]
  exact Nat.mul_lt_mul_of_pos_right (lt_limit_of_lt_scrollsFrom hoverlap h) r.ratio_pos

theorem limit_mul_ratio_le (hoverlap : overlap < r.client) :
    r.limit * r.ratio ≤ start * r.ratio + r.scrollsFrom overlap start * r.step overlap := by
  rw [mul_step, ← Nat.add_mul]
  exact Nat.mul_le_mul_right _ (limit_le_scrollsFrom hoverlap)

/-- All advances together are less than the content. -/
theorem scrollsFrom_mul_step_lt (hoverlap : overlap < r.client) :
    r.scrollsFrom overlap start * r.step overlap < r.content * r.ratio := by
  have hsum := overlap_add_step hoverlap
  have hcontent := r.limit_mul_ratio
  have hstep := step_pos hoverlap
  rcases Nat.eq_zero_or_pos (r.scrollsFrom overlap start) with hzero | hpos
  · rw [hzero, Nat.zero_mul]
    omega
  · have hbefore := lt_limit_mul_ratio hoverlap (Nat.sub_one_lt_of_lt hpos)
    have hlast : r.scrollsFrom overlap start * r.step overlap =
        (r.scrollsFrom overlap start - 1) * r.step overlap + r.step overlap := by
      rw [← Nat.succ_mul, Nat.succ_eq_add_one, Nat.sub_add_cancel hpos]
    omega

theorem lastRow_lt (hoverlap : overlap < r.client) :
    r.lastRow overlap start < r.content * r.ratio := by
  have hsum := overlap_add_step hoverlap
  have hstep := step_pos hoverlap
  have hcontent := r.limit_mul_ratio
  exact Nat.max_lt.mpr ⟨by omega, scrollsFrom_mul_step_lt hoverlap⟩

theorem given_of_lt {i : Nat} (h : i < r.scrollsFrom overlap start) :
    r.given overlap start i =
      List.range' (r.stop overlap start i * r.ratio + if i = 0 then 0 else overlap * r.ratio)
        (r.step overlap) :=
  if_pos h

theorem given_scrollsFrom : r.given overlap start (r.scrollsFrom overlap start) =
    List.range' (r.lastRow overlap start) (r.content * r.ratio - r.lastRow overlap start) :=
  if_neg (Nat.lt_irrefl _)

theorem given_ne_nil (hoverlap : overlap < r.client) (i : Nat) :
    r.given overlap start i ≠ [] := by
  have hstep := step_pos hoverlap
  have hlast : r.lastRow overlap start < r.content * r.ratio := lastRow_lt hoverlap
  unfold given
  split
  · exact fun hnil => hstep.ne' (List.range'_eq_nil_iff.mp hnil)
  · exact fun hnil => (Nat.sub_pos_of_lt hlast).ne' (List.range'_eq_nil_iff.mp hnil)

theorem step_cast (hoverlap : overlap < r.client) :
    (r.heights overlap).viewport - (r.heights overlap).overlap = (r.step overlap : Int) := by
  have hsum := overlap_add_step hoverlap
  simp only [heights]
  omega

theorem remaining_eq (hoverlap : overlap < r.client) :
    (r.heights overlap).remaining (r.scrollsFrom overlap start) =
      ((r.content * r.ratio - r.scrollsFrom overlap start * r.step overlap : Nat) : Int) := by
  unfold Heights.remaining
  rw [step_cast hoverlap, Nat.cast_sub (scrollsFrom_mul_step_lt hoverlap).le, ← Nat.cast_mul]
  rfl

theorem covered (hoverlap : overlap < r.client) :
    (r.heights overlap).Covered (r.scrollsFrom overlap start) where
  overlap_nonneg := Nat.cast_nonneg _
  overlap_lt := Nat.cast_lt.mpr (Nat.mul_lt_mul_of_pos_right hoverlap r.ratio_pos)
  remaining_pos := by
    rw [remaining_eq hoverlap]
    exact Nat.cast_pos.mpr (Nat.sub_pos_of_lt (scrollsFrom_mul_step_lt hoverlap))

theorem heights_eq (hoverlap : overlap * r.ratio ≤ 2 ^ 52) :
    Scale.heights ⟨Double.ofInt r.content, Double.ofInt r.client, Double.ofInt overlap,
      Double.ofInt r.ratio⟩ = .ok (r.heights overlap) := by
  have hratio := r.ratio_le
  have hpos := r.ratio_pos
  have hexact := r.exact
  have hclient := Nat.mul_le_mul_right r.ratio r.client_lt.le
  exact heights_whole (by omega) (by omega) (by rw [← Nat.cast_mul]; omega)
    (by rw [← Nat.cast_mul]; omega) (by rw [← Nat.cast_mul]; omega)

theorem overlap_mul_le (hoverlap : overlap < r.client) : overlap * r.ratio ≤ 2 ^ 52 := by
  have hscaled := Nat.mul_le_mul_right r.ratio (hoverlap.trans r.client_lt).le
  exact hscaled.trans r.exact

/-- A crop within a view shows the rows of the content that it lies on. -/
theorem cropRows_view (tiles : List Image) {tile position top height : Nat}
    (htile : tiles[tile]? = some (r.view position))
    (hfits : top + height ≤ r.client * r.ratio) :
    cropRows r.width tiles ⟨tile, top, height⟩ =
      (List.range' (position * r.ratio + top) height).map r.row := by
  have hrow : (fun i => fitRow r.width (r.row i)) = r.row :=
    funext fun i => fitRow_of_length (r.row_length i)
  unfold cropRows
  simp only [htile, view, Int.toNat_natCast]
  rw [← List.map_drop, ← List.map_take, List.drop_range', List.take_range'_of_length_ge (by omega),
    List.map_map, Function.comp_def, hrow, Nat.mul_one]

theorem tiles_getElem? {i : Nat} (h : i ≤ r.scrollsFrom overlap start) :
    (r.tiles overlap start)[i]? = some (r.view (r.stop overlap start i)) := by
  unfold tiles tops
  rw [List.getElem?_map, List.getElem?_map, List.getElem?_range (by omega), Option.map_some,
    Option.map_some]

theorem map_height_tiles : (r.tiles overlap start).map (fun tile => (tile.height : Int)) =
    List.replicate (r.scrollsFrom overlap start + 1) (r.heights overlap).viewport := by
  unfold tiles tops
  rw [List.map_map, List.map_map, List.eq_replicate_iff]
  refine ⟨by rw [List.length_map, List.length_range], fun height hmem => ?_⟩
  obtain ⟨i, -, rfl⟩ := List.mem_map.mp hmem
  simp only [Function.comp_apply, Image.height, view, heights, List.length_map, List.length_range']

def crops (r : Region) (overlap start : Nat) : List Crop :=
  plan (r.heights overlap) ((r.tiles overlap start).map fun tile => (tile.height : Int))

theorem crops_eq (hoverlap : overlap < r.client) :
    r.crops overlap start =
      (List.range (r.scrollsFrom overlap start)).map (r.heights overlap).early ++
        [(r.heights overlap).final (r.scrollsFrom overlap start)] := by
  unfold crops
  rw [map_height_tiles, plan_replicate (covered hoverlap)]

theorem cropRows_early (hoverlap : overlap < r.client) {i : Nat}
    (h : i < r.scrollsFrom overlap start) :
    cropRows r.width (r.tiles overlap start) ((r.heights overlap).early i) =
      (r.given overlap start i).map r.row := by
  have hsum := overlap_add_step hoverlap
  have htop : (if i = 0 then 0 else (r.heights overlap).overlap) =
      ((if i = 0 then 0 else overlap * r.ratio : Nat) : Int) := by
    split <;> rfl
  unfold Heights.early
  rw [step_cast hoverlap, htop, given_of_lt h, cropRows_view _ (tiles_getElem? h.le)]
  split <;> omega

theorem cropRows_final (hoverlap : overlap < r.client) :
    cropRows r.width (r.tiles overlap start)
        ((r.heights overlap).final (r.scrollsFrom overlap start)) =
      (r.given overlap start (r.scrollsFrom overlap start)).map r.row := by
  have hcontent := r.limit_mul_ratio
  have hless : r.scrollsFrom overlap start * r.step overlap < r.content * r.ratio :=
    scrollsFrom_mul_step_lt hoverlap
  have htop : max 0 ((r.heights overlap).viewport -
      (r.heights overlap).remaining (r.scrollsFrom overlap start)) =
      ((r.lastRow overlap start - r.limit * r.ratio : Nat) : Int) := by
    rw [remaining_eq hoverlap]
    unfold lastRow heights
    dsimp only
    omega
  have hheight : min (r.heights overlap).viewport
      ((r.heights overlap).remaining (r.scrollsFrom overlap start)) =
      ((r.content * r.ratio - r.lastRow overlap start : Nat) : Int) := by
    rw [remaining_eq hoverlap]
    unfold lastRow heights
    dsimp only
    omega
  have hlimit : r.limit * r.ratio ≤ r.lastRow overlap start := Nat.le_max_left _ _
  have hlast : r.lastRow overlap start < r.content * r.ratio := lastRow_lt hoverlap
  unfold Heights.final
  rw [htop, hheight, given_scrollsFrom, cropRows_view _ (tiles_getElem? le_rfl) (by omega),
    stop_scrollsFrom hoverlap, Nat.add_sub_cancel' hlimit]

theorem map_cropRows (hoverlap : overlap < r.client) :
    (r.crops overlap start).map (cropRows r.width (r.tiles overlap start)) =
      (List.range (r.scrollsFrom overlap start + 1)).map fun i =>
        (r.given overlap start i).map r.row := by
  rw [crops_eq hoverlap, List.map_append, List.map_map, List.range_succ, List.map_append,
    List.map_singleton, List.map_singleton, cropRows_final hoverlap]
  congr 1
  exact List.map_congr_left fun i hi => cropRows_early hoverlap (List.mem_range.mp hi)

theorem stitchImages_tiles (hoverlap : overlap < r.client) :
    stitchImages (r.tiles overlap start) ⟨Double.ofInt r.content, Double.ofInt r.client,
      Double.ofInt overlap, Double.ofInt r.ratio⟩ =
      .ok ⟨r.width, (r.rowsFrom overlap start).map r.row⟩ := by
  have hsome : r.crops overlap start ≠ [] := by
    rw [crops_eq hoverlap]
    exact List.append_ne_nil_of_right_ne_nil _ (List.cons_ne_nil _ _)
  have hwidth : ((r.tiles overlap start).head?.map Image.width).getD 0 = r.width := by
    rw [List.head?_eq_getElem?, tiles_getElem? (Nat.zero_le _)]
    rfl
  have hrows : (r.crops overlap start).flatMap (cropRows r.width (r.tiles overlap start)) =
      (r.rowsFrom overlap start).map r.row := by
    rw [List.flatMap_def, map_cropRows hoverlap, ← List.flatMap_def]
    exact List.map_flatMap.symm
  rw [← hrows]
  exact stitchImages_eq (heights_eq (overlap_mul_le hoverlap)) hsome hwidth

theorem stitch_tiles (hoverlap : overlap < r.client) :
    stitch ((r.tiles overlap start).map .image) ⟨Double.ofInt r.content, Double.ofInt r.client,
      Double.ofInt overlap, Double.ofInt r.ratio⟩ =
      .ok ⟨r.width, (r.rowsFrom overlap start).map r.row⟩ := by
  have hnonempty : r.tiles overlap start ≠ [] := by
    intro hnil
    have hzero := tiles_getElem? (Nat.zero_le (r.scrollsFrom overlap start))
    rw [hnil] at hzero
    cases hzero
  rw [stitch_images _ _ hnonempty, stitchImages_tiles hoverlap]

/-- What a long capture from `start` with tiles at these positions notes: the element is looked for
and measured, then come the tiles, and at the end the element is measured once more. -/
def course (r : Region) (overlap start : Nat) (tops : List Nat) (page : PageRef) (selector : String)
    (element : ElementRef) (ms : Int) : List (Note Ask Ask.Reply) :=
  [⟨.page page (.waitFor selector ms), .ok (some element)⟩] ++
    ([r.measured page selector start] ++
      (tops.flatMap (r.tileNotes overlap page selector element) ++
        [r.measured page selector r.limit]))

namespace Shown

variable {W : Type} {env : Responses State Ask Ask.Reply W} {top : W → Nat}
  {page : PageRef} {selector : String} {element : ElementRef} {o : LongOptions}

/-- A long capture along a path, with enough tiles to reach its end, takes its course and yields
what these tiles are stitched to. -/
theorem noting_captureLong_along (h : r.Shown env top page selector element)
    (ho : o.overlap = overlap) {last : Nat} {stop : Nat → Nat} (p : r.Path overlap start last stop)
    (htiles : last + 1 ≤ o.maxTiles) {image : Image}
    (hstitch : stitch (((List.range (last + 1)).map stop).map fun position =>
        .image (r.view position)) ⟨Double.ofInt r.content, Double.ofInt r.client,
      Double.ofInt overlap, Double.ofInt r.ratio⟩ = .ok image)
    (x : W × State) (hx : top x.1 = start) :
    ∃ y, (captureLong page o selector).Noting env browses x
      (r.course overlap start ((List.range (last + 1)).map stop) page selector element o.timeoutMs)
      (.ok (.image image)) y := by
  obtain ⟨x₁, hfound, hx₁⟩ := h.noting_waitVisible o.timeoutMs x
  obtain ⟨x₂, hfirst, hx₂⟩ := h.noting_measure x₁
  obtain ⟨x₃, hcaptured, hx₃⟩ := h.noting_captureTiles ho p last 0 (o.maxTiles - 1).toNat
    (Nat.zero_add _) (by omega) x₂ (by rw [hx₂, hx₁, hx, p.begins])
  obtain ⟨x₄, hlast, -⟩ := h.noting_measure x₃
  rw [hx₁, hx] at hfirst
  rw [hx₃] at hlast
  rw [← List.range_eq_range'] at hcaptured
  have htall : (r.measures start).content.le (r.measures start).viewport = false := by
    have hcontent := r.content_le
    have hclient := r.client_lt
    simp only [measures]
    rw [Double.le_ofInt (by omega) (by omega), decide_eq_false_iff_not]
    omega
  have hstitched : (Program.ofResult (stitch (((List.range (last + 1)).map stop).map fun position =>
      .image (r.view position)) ⟨(r.measures r.limit).content, (r.measures r.limit).viewport,
        Double.ofInt overlap, (r.measures r.limit).ratio⟩)).Noting env browses x₄ [] (.ok image)
      x₄ := by
    rw [← hstitch]
    exact Program.noting_ofResult _ x₄
  unfold captureLong
  refine ⟨x₄, hfound.bind (hfirst.bind ?_)⟩
  rw [if_neg (by rw [htall]; decide), ho]
  exact hcaptured.bind (hlast.bind (hstitched.bind (Program.noting_done _ x₄)))

/-- A long capture of an element that stands still at `start`, with enough tiles
to reach the end, takes its course and has the rows `rowsFrom`. -/
theorem noting_captureLong (h : r.Shown env top page selector element) (ho : o.overlap = overlap)
    (hoverlap : overlap < r.client) (hstart : start ≤ r.limit)
    (htiles : r.scrollsFrom overlap start + 1 ≤ o.maxTiles) (x : W × State)
    (hx : top x.1 = start) :
    ∃ y, (captureLong page o selector).Noting env browses x
      (r.course overlap start (r.tops overlap start) page selector element o.timeoutMs)
      (.ok (.image ⟨r.width, (r.rowsFrom overlap start).map r.row⟩)) y := by
  apply h.noting_captureLong_along ho (path_stop hoverlap hstart) htiles ?_ x hx
  rw [← stitch_tiles hoverlap, tiles, tops]
  simp only [List.map_map, Function.comp_def]

end Shown
end Region
end Pageflow.Capture
