import Pageflow.Proofs.Capture.Content

/-! How high a long capture from the top is. It takes a tile at each position until a scroll leaves
the element where it is, every tile gives some of its rows, and together they are as many as the
content has. -/
namespace Pageflow.Capture
open Browser

namespace Region

variable {r : Region} {overlap start : Nat}

theorem length_rowsFrom : (r.rowsFrom overlap start).length =
    r.scrollsFrom overlap start * r.step overlap +
      (r.content * r.ratio - r.lastRow overlap start) := by
  have hearly : ∀ i ∈ List.range (r.scrollsFrom overlap start),
      (r.given overlap start i).length = r.step overlap := by
    intro i hi
    rw [given_of_lt (List.mem_range.mp hi), List.length_range']
  unfold rowsFrom
  rw [List.range_succ, List.flatMap_append, List.flatMap_singleton, List.length_append,
    given_scrollsFrom, List.length_range', List.length_flatMap, List.map_congr_left hearly,
    List.map_const', List.sum_replicate_nat, List.length_range]

theorem length_rowsFrom_zero (hoverlap : overlap < r.client) :
    (r.rowsFrom overlap 0).length = r.content * r.ratio := by
  have hless : r.scrollsFrom overlap 0 * r.step overlap < r.content * r.ratio :=
    scrollsFrom_mul_step_lt hoverlap
  rw [length_rowsFrom, lastRow_zero hoverlap]
  exact Nat.add_sub_cancel' hless.le

/-- Rows of the content that lie within a view are a piece of it. -/
theorem range'_isInfix_view {position top height : Nat} (h : top + height ≤ r.client * r.ratio) :
    (List.range' (position * r.ratio + top) height).map r.row <:+: (r.view position).rows := by
  have hpiece : List.range' (position * r.ratio + top) height =
      ((List.range' (position * r.ratio) (r.client * r.ratio)).drop top).take height := by
    rw [List.drop_range', List.take_range'_of_length_ge (by omega), Nat.mul_one]
  rw [hpiece]
  exact ((List.take_prefix _ _).isInfix.trans (List.drop_suffix _ _).isInfix).map r.row

theorem given_isInfix_view (hoverlap : overlap < r.client) {i : Nat}
    (h : i ≤ r.scrollsFrom overlap start) :
    (r.given overlap start i).map r.row <:+: (r.view (r.stop overlap start i)).rows := by
  rcases Nat.lt_or_eq_of_le h with hlt | rfl
  · have hsum := overlap_add_step hoverlap
    rw [given_of_lt hlt]
    refine range'_isInfix_view ?_
    split <;> omega
  · have hcontent := r.limit_mul_ratio
    have hlimit : r.limit * r.ratio ≤ r.lastRow overlap start := Nat.le_max_left _ _
    have hlast : r.lastRow overlap start < r.content * r.ratio := lastRow_lt hoverlap
    have hpiece : r.limit * r.ratio + (r.lastRow overlap start - r.limit * r.ratio) =
        r.lastRow overlap start := Nat.add_sub_cancel' hlimit
    rw [given_scrollsFrom, stop_scrollsFrom hoverlap, ← hpiece]
    exact range'_isInfix_view (by omega)

/-- A capture from the top that is put together of `k + 1` tiles: it takes its course, a scroll
moves the region after each tile but the last and leaves it where it is after that, the image is as
high as the content, and each tile gives a piece of its rows. -/
structure Composed (r : Region) (overlap k : Nat) (page : PageRef) (selector : String)
    (element : ElementRef) (ms : Int) (noted : List (Note Ask Ask.Reply)) (image : Image) :
    Prop where
  course : noted = r.course overlap 0 ((List.range (k + 1)).map (r.position overlap)) page selector
    element ms
  moves : ∀ i < k, r.position overlap i < r.scrolled overlap (r.position overlap i)
  rests : r.scrolled overlap (r.position overlap k) = r.position overlap k
  height : image.height = r.content * r.ratio
  pieces : ∃ parts, image.rows = parts.flatten ∧
    List.Forall₂ (fun part position => part ≠ [] ∧ part <:+: (r.view position).rows) parts
      ((List.range (k + 1)).map (r.position overlap))

/-- For every overlap below the visible height a capture from the top takes a tile more than the
least number of advances that reach the end, if as many are allowed. -/
theorem Shown.captureLong_composed {W : Type} {env : Responses State Ask Ask.Reply W}
    {top : W → Nat} {page : PageRef} {selector : String} {element : ElementRef} {o : LongOptions}
    (h : r.Shown env top page selector element) (ho : o.overlap = overlap)
    (hoverlap : overlap < r.client) {k : Nat}
    (hk : IsLeast {n | r.content - r.client ≤ n * (r.client - overlap)} k)
    (htiles : k + 1 ≤ o.maxTiles) (x : W × State) (hx : top x.1 = 0) :
    ∃ noted image y,
      (captureLong page o selector).Noting env browses x noted (.ok (.image image)) y ∧
      r.Composed overlap k page selector element o.timeoutMs noted image := by
  obtain rfl : r.scrolls overlap = k := (isLeast_scrolls hoverlap).unique hk
  obtain ⟨y, hcapture⟩ := h.noting_captureLong ho hoverlap (Nat.zero_le _) htiles x hx
  have hstop : r.position overlap = r.stop overlap 0 := funext fun n => (stop_zero_left n).symm
  refine ⟨_, _, y, hcapture, ?_⟩
  constructor
  case course => rw [hstop]; rfl
  case moves =>
    intro i hi
    rw [hstop, scrolled_stop hoverlap]
    exact stop_lt_succ hoverlap hi
  case rests => rw [hstop, ← scrollsFrom_zero, stop_scrollsFrom hoverlap, scrolled_limit]
  case height => exact (List.length_map _).trans (length_rowsFrom_zero hoverlap)
  case pieces =>
    refine ⟨(List.range (r.scrolls overlap + 1)).map fun i => (r.given overlap 0 i).map r.row,
      ?_, ?_⟩
    · rw [← List.flatMap_def]
      exact List.map_flatMap
    · rw [hstop, List.forall₂_map_left_iff, List.forall₂_map_right_iff, List.forall₂_same]
      intro i hi
      exact ⟨fun hnil => given_ne_nil hoverlap i (List.map_eq_nil_iff.mp hnil),
        given_isInfix_view hoverlap (Nat.lt_succ_iff.mp (List.mem_range.mp hi))⟩

theorem captureLong_composed_ruler :
    IsLeast {n | 10 - 4 ≤ n * (4 - 1)} 2 ∧
    ∃ noted image y, (captureLong ⟨0⟩ { overlap := 1 } "#list").Noting
        (ruler.display ⟨⟨0⟩, "#list"⟩) browses (0, {}) noted (.ok (.image image)) y ∧
      ruler.Composed 1 2 ⟨0⟩ "#list" ⟨⟨0⟩, "#list"⟩ 15000 noted image := by
  have hleast : IsLeast {n | 10 - 4 ≤ n * (4 - 1)} 2 := by
    refine ⟨by decide, fun n hn => ?_⟩
    change 10 - 4 ≤ n * (4 - 1) at hn
    omega
  exact ⟨hleast, (ruler.shown_display ⟨0⟩ "#list" ⟨⟨0⟩, "#list"⟩).captureLong_composed rfl
    (by decide) hleast (by decide) (0, {}) rfl⟩

end Region

/-! The least content that is composed to another height has one pixel more than a double holds the
halves of. -/

/-- What is visible of a white element, `height` rows of it, a pixel wide. -/
def whiteTile (height : Nat) : Image := ⟨1, List.replicate height [Pixel.white]⟩

/-- A white element `height + 1` pixels high, all but a pixel of it visible; the world is its
position, and any scroll takes it to its end. -/
def tower (height : Nat) (element : ElementRef) : Responses State Ask Ask.Reply Nat
  | .page _ (.waitFor _ _), x => (.ok (some element), x)
  | .page _ (.measure _), x =>
    (.ok (some { scrollHeight := some (Double.ofInt ((height + 1 : Nat) : Int))
                 clientHeight := some (Double.ofInt height)
                 scrollTop := some (Double.ofInt x.1), pixelRatio := some (Double.ofInt 1) }), x)
  | .page _ (.advance _ _), x => (.ok (), (1, x.2))
  | .element _ .screenshot, x => (.ok (.image (whiteTile height)), x)
  | .sleep _, x => (.ok (), x)
  | q, x => (q.refused, x)

def towerScale (height : Nat) : Scale :=
  ⟨Double.ofInt ((height + 1 : Nat) : Int), Double.ofInt height, Double.ofInt 1, Double.ofInt 1⟩

/-- The heights of a tower if adding a half rounds the content up by a pixel. -/
def towerHeights (height : Nat) : Heights := ⟨((height + 2 : Nat) : Int), height, 1⟩

section

variable {height : Nat} {element : ElementRef}

theorem isZero_one : (Double.ofInt 1).isZero = false := by
  rw [Double.isZero_ofInt (by decide)]
  rfl

theorem run_measure_tower (p : Nat) (s : State) :
    (measure ⟨0⟩ "#list").run (tower height element) (p, s) =
      (.ok ⟨(towerScale height).content, (towerScale height).viewport, Double.ofInt p,
        (towerScale height).ratio⟩, (p, s)) := by
  change (Except.ok (Measures.ofMetrics _), (p, s)) = _
  simp only [Measures.ofMetrics, Option.getD_some, isZero_one, Bool.false_eq_true, ↓reduceIte]
  rfl

theorem run_captureTile_tower (p : Nat) (s : State) :
    (captureTile ⟨0⟩ { overlap := 1 } element "#list").run (tower height element) (p, s) =
      (.ok (.image (whiteTile height), !(Double.ofInt (1 : Nat)).eq (Double.ofInt p)), (1, s)) :=
  rfl

theorem run_captureTiles_tower (s : State) :
    (captureTiles ⟨0⟩ { overlap := 1 } element "#list" 199).run (tower height element) (0, s) =
      (.ok (List.replicate 2 (.image (whiteTile height))), (1, s)) := by
  have hmoved : (!(Double.ofInt (1 : Nat)).eq (Double.ofInt (0 : Nat))) = true := by
    rw [Double.eq_ofInt (by decide) (by decide)]
    rfl
  have hrests : (!(Double.ofInt (1 : Nat)).eq (Double.ofInt (1 : Nat))) = false := by
    rw [Double.eq_ofInt (by decide) (by decide)]
    rfl
  rw [captureTiles, Program.bind_eq_bind, Program.run_bind_ok (run_captureTile_tower 0 s)]
  simp only [hmoved, ↓reduceIte]
  rw [captureTiles, Program.bind_eq_bind, Program.run_bind, Program.bind_eq_bind,
    Program.run_bind_ok (run_captureTile_tower 1 s)]
  simp only [hrests, Bool.false_eq_true, ↓reduceIte]
  rfl

theorem heights_tower (hexact : height ≤ 2 ^ 52)
    (hround : (Double.ofInt ((height + 1 : Nat) : Int)).roundHalfUp? =
      some ((height + 2 : Nat) : Int)) :
    (towerScale height).heights = .ok (towerHeights height) := by
  have htotal : toPixels (Double.ofInt ((height + 1 : Nat) : Int)) (Double.ofInt 1) =
      .ok ((height + 2 : Nat) : Int) := by
    unfold toPixels
    rw [Double.mul_ofInt (by omega) (by omega), Int.mul_one]
    simp only [hround]
  have hviewport : toPixels (Double.ofInt height) (Double.ofInt 1) = .ok (height : Int) := by
    rw [toPixels_whole Int.one_ne_zero (by decide) (by omega), Int.mul_one]
  have hoverlap : toPixels (Double.ofInt 1) (Double.ofInt 1) = .ok 1 := by decide +kernel
  unfold towerScale Scale.heights
  simp only [isZero_one, Bool.false_eq_true, ↓reduceIte]
  rw [htotal, hviewport, hoverlap]
  rfl

theorem remaining_tower : (towerHeights height).remaining 1 = 3 := by
  unfold Heights.remaining towerHeights
  dsimp only
  omega

theorem covered_tower (hheight : 1 < height) : (towerHeights height).Covered 1 where
  overlap_nonneg := Int.one_nonneg
  overlap_lt := Int.ofNat_lt.mpr hheight
  remaining_pos := by
    rw [remaining_tower]
    decide

/-- The second tile gives three rows, where two are left of the content. -/
theorem plan_tower (hheight : 3 ≤ height) :
    plan (towerHeights height)
        ([whiteTile height, whiteTile height].map fun tile => (tile.height : Int)) =
      [⟨0, (0 : Nat), (height - 1 : Nat)⟩, ⟨1, (height - 3 : Nat), (3 : Nat)⟩] := by
  have htiles : ([whiteTile height, whiteTile height].map fun tile => (tile.height : Int)) =
      List.replicate 2 (towerHeights height).viewport := by
    have htall : (whiteTile height).height = height := List.length_replicate
    rw [List.map_cons, List.map_singleton, htall]
    rfl
  have hadvance : ((height - 1 : Nat) : Int) = height - 1 := by omega
  have htop : ((height - 3 : Nat) : Int) = max 0 ((height : Int) - 3) := by omega
  have hrest : ((3 : Nat) : Int) = min (height : Int) 3 := by omega
  rw [htiles, hadvance, htop, hrest]
  refine (plan_replicate (covered_tower (by omega))).trans ?_
  unfold Heights.final
  rw [remaining_tower]
  rfl

theorem stitch_tower (hheight : 3 ≤ height) (hexact : height ≤ 2 ^ 52)
    (hround : (Double.ofInt ((height + 1 : Nat) : Int)).roundHalfUp? =
      some ((height + 2 : Nat) : Int)) :
    ∃ image, stitch (List.replicate 2 (.image (whiteTile height))) (towerScale height) =
        .ok image ∧
      image.height = height + 2 := by
  have htall : (whiteTile height).height = height := List.length_replicate
  have hfirst : (cropRows 1 [whiteTile height, whiteTile height]
      ⟨0, (0 : Nat), (height - 1 : Nat)⟩).length = height - 1 :=
    length_cropRows rfl (by omega)
  have hlast : (cropRows 1 [whiteTile height, whiteTile height]
      ⟨1, (height - 3 : Nat), (3 : Nat)⟩).length = 3 :=
    length_cropRows rfl (by omega)
  have hsome : plan (towerHeights height)
      ([whiteTile height, whiteTile height].map fun tile => (tile.height : Int)) ≠ [] := by
    rw [plan_tower hheight]
    exact List.cons_ne_nil _ _
  have hwhole := stitchImages_eq (heights_tower hexact hround) hsome rfl
  rw [plan_tower hheight] at hwhole
  refine ⟨_, (stitch_images _ _ (List.cons_ne_nil _ _)).trans hwhole, ?_⟩
  unfold Image.height
  rw [List.flatMap_cons, List.flatMap_singleton, List.length_append]
  exact (congrArg₂ (· + ·) hfirst hlast).trans (by omega)

theorem run_captureLong_tower (hexact : height ≤ 2 ^ 52) {image : Image}
    (hstitch : stitch (List.replicate 2 (.image (whiteTile height))) (towerScale height) =
      .ok image) (s : State) :
    (captureLong ⟨0⟩ { overlap := 1 } "#list").run (tower height element) (0, s) =
      (.ok (.image image), (1, s)) := by
  have hfound : (PageRef.waitVisible ⟨0⟩ "#list" 15000).run (tower height element) (0, s) =
      (.ok element, (0, s)) := rfl
  have htall : (towerScale height).content.le (towerScale height).viewport = false := by
    unfold towerScale
    rw [Double.le_ofInt (by omega) (by omega), decide_eq_false_iff_not]
    omega
  have hstitched : (Program.ofResult (stitch (List.replicate 2 (.image (whiteTile height)))
      (towerScale height)) : Activity Image).run (tower height element) (1, s) =
      (.ok image, (1, s)) := by
    rw [hstitch]
    rfl
  unfold captureLong
  rw [Program.bind_eq_bind, Program.run_bind_ok hfound, Program.bind_eq_bind,
    Program.run_bind_ok (run_measure_tower 0 s)]
  simp only [htall, Bool.false_eq_true, ↓reduceIte]
  rw [Program.bind_eq_bind]
  refine (Program.run_bind_ok (run_captureTiles_tower s) _).trans ?_
  rw [Program.bind_eq_bind, Program.run_bind_ok (run_measure_tower 1 s)]
  exact (Program.run_bind_ok hstitched _).trans rfl

/-- A double does not hold the half that is added to the content, so the image is a pixel higher
than the content. -/
theorem captureLong_tower :
    IsLeast {n | (2 ^ 52 + 1) - 2 ^ 52 ≤ n * (2 ^ 52 - 1)} 1 ∧
    ∃ image, ((captureLong ⟨0⟩ { overlap := 1 } "#list").run (tower (2 ^ 52) ⟨⟨0⟩, "#list"⟩)
        (0, {})).1 = .ok (.image image) ∧
      image.height = 2 ^ 52 + 2 ∧ image.height ≠ (2 ^ 52 + 1) * 1 := by
  have hleast : IsLeast {n | (2 ^ 52 + 1) - 2 ^ 52 ≤ n * (2 ^ 52 - 1)} 1 := by
    refine ⟨by decide, fun n hn => ?_⟩
    change (2 ^ 52 + 1) - 2 ^ 52 ≤ n * (2 ^ 52 - 1) at hn
    omega
  have hround : (Double.ofInt ((2 ^ 52 + 1 : Nat) : Int)).roundHalfUp? =
      some ((2 ^ 52 + 2 : Nat) : Int) := by decide +kernel
  obtain ⟨image, hstitch, hheight⟩ := stitch_tower (by decide) le_rfl hround
  refine ⟨hleast, image, ?_, hheight, by omega⟩
  rw [run_captureLong_tower le_rfl hstitch]

end

end Pageflow.Capture
