import Mathlib.Order.Bounds.Defs
import Pageflow.Proofs.Capture.Region

/-! The tiles of a long capture of a region: the positions at which they are taken, from where the
region stands by one advance each until the end of the content, and what the browser is asked on
the way. -/
namespace Pageflow.Capture
open Browser

namespace Region

variable (r : Region) (overlap start : Nat)

/-- How far the region can be scrolled. -/
def limit : Nat := r.content - r.client

/-- How often the region is scrolled until it is at its end: the least number of
advances that reach the limit. -/
def scrolls : Nat := (r.limit + (r.client - overlap) - 1) / (r.client - overlap)

def position (n : Nat) : Nat := min r.limit (n * (r.client - overlap))

/-- How often the region is scrolled to be at its end if it stands at `start`. -/
def scrollsFrom : Nat :=
  (r.limit - start + (r.client - overlap) - 1) / (r.client - overlap)

/-- Where the region stands after `n` advances from `start`. -/
def stop (n : Nat) : Nat := min r.limit (start + n * (r.client - overlap))

/-- The positions at which the tiles are taken. -/
def tops : List Nat := (List.range (r.scrollsFrom overlap start + 1)).map (r.stop overlap start)

def tiles : List Image := (r.tops overlap start).map r.view

variable {r overlap start}

theorem scrollsFrom_zero : r.scrollsFrom overlap 0 = r.scrolls overlap := rfl

theorem stop_zero_left (n : Nat) : r.stop overlap 0 n = r.position overlap n := by
  unfold stop position
  rw [Nat.zero_add]

theorem limit_pos : 0 < r.limit := Nat.sub_pos_of_lt r.client_lt

theorem limit_add_client : r.limit + r.client = r.content := Nat.sub_add_cancel r.client_lt.le

theorem limit_le_scrollsFrom (hoverlap : overlap < r.client) :
    r.limit ≤ start + r.scrollsFrom overlap start * (r.client - overlap) := by
  have hstep : 0 < r.client - overlap := Nat.sub_pos_of_lt hoverlap
  have hdiv := Nat.div_add_mod (r.limit - start + (r.client - overlap) - 1) (r.client - overlap)
  have hmod := Nat.mod_lt (r.limit - start + (r.client - overlap) - 1) hstep
  rw [Nat.mul_comm] at hdiv
  unfold scrollsFrom
  omega

theorem lt_limit_of_lt_scrollsFrom {n : Nat} (hoverlap : overlap < r.client)
    (h : n < r.scrollsFrom overlap start) : start + n * (r.client - overlap) < r.limit := by
  have hstep : 0 < r.client - overlap := Nat.sub_pos_of_lt hoverlap
  have hle := (Nat.le_div_iff_mul_le hstep).mp (show n + 1 ≤ _ from h)
  rw [Nat.add_mul, Nat.one_mul] at hle
  omega

theorem scrollsFrom_le {n : Nat} (hoverlap : overlap < r.client)
    (h : r.limit ≤ start + n * (r.client - overlap)) : r.scrollsFrom overlap start ≤ n := by
  by_contra hlt
  have := lt_limit_of_lt_scrollsFrom hoverlap (Nat.not_le.mp hlt)
  omega

theorem limit_le_scrolls (hoverlap : overlap < r.client) :
    r.limit ≤ r.scrolls overlap * (r.client - overlap) := by
  rw [← scrollsFrom_zero, ← Nat.zero_add (_ * _)]
  exact limit_le_scrollsFrom hoverlap

theorem scrollsFrom_le_scrolls (hoverlap : overlap < r.client) :
    r.scrollsFrom overlap start ≤ r.scrolls overlap :=
  scrollsFrom_le hoverlap ((limit_le_scrolls hoverlap).trans (Nat.le_add_left _ _))

theorem isLeast_scrolls (hoverlap : overlap < r.client) :
    IsLeast {n | r.content - r.client ≤ n * (r.client - overlap)} (r.scrolls overlap) := by
  refine ⟨limit_le_scrolls hoverlap, fun n hn => ?_⟩
  rw [← scrollsFrom_zero]
  exact scrollsFrom_le hoverlap (hn.trans (Nat.le_add_left _ _))

theorem scrolls_pos (hoverlap : overlap < r.client) : 1 ≤ r.scrolls overlap := by
  have hlimit := limit_le_scrolls hoverlap
  have hpos := r.limit_pos
  by_contra hzero
  obtain hzero : r.scrolls overlap = 0 := by omega
  rw [hzero, Nat.zero_mul] at hlimit
  omega

theorem stop_zero (hstart : start ≤ r.limit) : r.stop overlap start 0 = start := by
  unfold stop
  rw [Nat.zero_mul, Nat.add_zero, Nat.min_eq_right hstart]

theorem stop_of_lt {n : Nat} (hoverlap : overlap < r.client)
    (h : n < r.scrollsFrom overlap start) :
    r.stop overlap start n = start + n * (r.client - overlap) :=
  Nat.min_eq_right (lt_limit_of_lt_scrollsFrom hoverlap h).le

theorem stop_scrollsFrom (hoverlap : overlap < r.client) :
    r.stop overlap start (r.scrollsFrom overlap start) = r.limit :=
  Nat.min_eq_left (limit_le_scrollsFrom hoverlap)

theorem scrolled_stop (hoverlap : overlap < r.client) (n : Nat) :
    r.scrolled overlap (r.stop overlap start n) = r.stop overlap start (n + 1) := by
  have hadvance : (max 1 ((r.client : Int) - overlap)).toNat = r.client - overlap := by omega
  unfold scrolled stop
  rw [hadvance, Nat.add_mul, Nat.one_mul]
  unfold limit
  omega

theorem stop_lt_succ {n : Nat} (hoverlap : overlap < r.client)
    (h : n < r.scrollsFrom overlap start) :
    r.stop overlap start n < r.stop overlap start (n + 1) := by
  have hlimit := lt_limit_of_lt_scrollsFrom hoverlap h
  have hstep : 0 < r.client - overlap := Nat.sub_pos_of_lt hoverlap
  unfold stop
  rw [Nat.add_mul, Nat.one_mul]
  omega

theorem scrolled_limit : r.scrolled overlap r.limit = r.limit := by
  unfold scrolled limit
  omega

theorem scrolled_le (overlap : Int) (top : Nat) : r.scrolled overlap top ≤ r.content :=
  (Nat.min_le_left _ _).trans (Nat.sub_le _ _)

/-- Positions from `start` to the end of the region, each reached by a scroll from the one before
and beyond it. -/
structure Path (r : Region) (overlap start last : Nat) (stop : Nat → Nat) : Prop where
  begins : stop 0 = start
  next : ∀ n < last, r.scrolled overlap (stop n) = stop (n + 1)
  moves : ∀ n < last, stop n < stop (n + 1)
  ends : stop last = r.limit

theorem Path.stop_le {last : Nat} {stop : Nat → Nat} (p : r.Path overlap start last stop) {n : Nat}
    (hn : n ≤ last) : stop n ≤ r.content := by
  rcases Nat.lt_or_eq_of_le hn with hlt | rfl
  · have hnext := r.scrolled_le overlap (stop n)
    rw [p.next n hlt] at hnext
    exact (p.moves n hlt).le.trans hnext
  · rw [p.ends]
    exact Nat.sub_le _ _

/-- Where the overlap is smaller than what is visible, the stops are an advance apart. -/
theorem path_stop (hoverlap : overlap < r.client) (hstart : start ≤ r.limit) :
    r.Path overlap start (r.scrollsFrom overlap start) (r.stop overlap start) where
  begins := stop_zero hstart
  next n _ := scrolled_stop hoverlap n
  moves _ hn := stop_lt_succ hoverlap hn
  ends := stop_scrollsFrom hoverlap

/-- What is noted of one tile that is taken at `top`: the picture, and the measures before and
after the scroll behind it. -/
def tileNotes (r : Region) (overlap : Nat) (page : PageRef) (selector : String)
    (element : ElementRef) (top : Nat) : List (Note Ask Ask.Reply) :=
  [⟨.element element .screenshot, .ok (.image (r.view top))⟩, r.measured page selector top,
    ⟨.page page (.advance selector overlap), .ok ()⟩,
    r.measured page selector (r.scrolled overlap top)]

namespace Shown

variable {W : Type} {env : Responses State Ask Ask.Reply W} {top : W → Nat}
  {page : PageRef} {selector : String} {element : ElementRef} {o : LongOptions}

theorem noting_captureTile (h : r.Shown env top page selector element) (ho : o.overlap = overlap)
    (x : W × State) (hx : top x.1 ≤ r.content) :
    ∃ y, (captureTile page o element selector).Noting env browses x
        (r.tileNotes overlap page selector element (top x.1))
        (.ok (.image (r.view (top x.1)), !decide (r.scrolled overlap (top x.1) = top x.1))) y ∧
      top y.1 = r.scrolled overlap (top x.1) := by
  obtain ⟨x₁, hpicture, hx₁⟩ := h.noting_screenshot x
  obtain ⟨x₂, hbefore, hx₂⟩ := h.noting_measure x₁
  obtain ⟨x₃, hadvance, hx₃⟩ := h.noting_advance o.overlap x₂
  obtain ⟨x₄, hsettle, hx₄⟩ := h.noting_settle o x₃
  obtain ⟨y, hafter, hy⟩ := h.noting_measure x₄
  have hafterTop : top x₄.1 = r.scrolled overlap (top x.1) := by
    rw [hx₄, hx₃, hx₂, hx₁, ho]
  rw [hx₁] at hbefore
  rw [ho] at hadvance
  rw [hafterTop] at hafter
  refine ⟨y, ?_, hy.trans hafterTop⟩
  have hmoved : (!(r.measures (r.scrolled overlap (top x.1))).top.eq (r.measures (top x.1)).top) =
      !decide (r.scrolled overlap (top x.1) = top x.1) := by
    have hcontent := r.content_le
    have hscrolled := r.scrolled_le overlap (top x.1)
    simp only [measures]
    rw [Double.eq_ofInt (by omega) (by omega)]
    simp only [Int.natCast_inj]
  unfold captureTile
  rw [ho]
  refine hpicture.bind (hbefore.bind (hadvance.bind (hsettle.bind (hafter.bind ?_))))
  rw [hmoved]
  exact Program.noting_done _ y

/-- From a position on there is a tile for each scroll that is left and one at
the end, where a scroll no longer moves the region. -/
theorem noting_captureTiles (h : r.Shown env top page selector element) (ho : o.overlap = overlap)
    {last : Nat} {stop : Nat → Nat} (p : r.Path overlap start last stop) (rest n left : Nat)
    (hn : n + rest = last) (hleft : rest ≤ left) (x : W × State) (hx : top x.1 = stop n) :
    ∃ y, (captureTiles page o element selector left).Noting env browses x
        (((List.range' n (rest + 1)).map stop).flatMap
          (r.tileNotes overlap page selector element))
        (.ok (((List.range' n (rest + 1)).map stop).map fun position =>
          .image (r.view position))) y ∧
      top y.1 = r.limit := by
  -- The first tile is taken outside of the induction: both cases begin with it.
  obtain ⟨x₁, htile, hx₁⟩ := h.noting_captureTile ho x (hx ▸ p.stop_le (by omega))
  rw [hx] at htile hx₁
  induction rest generalizing n left x x₁ with
  | zero =>
    obtain rfl : n = last := by omega
    have hend : r.scrolled overlap (stop n) = stop n := by
      rw [p.ends, scrolled_limit]
    rw [hend, p.ends] at hx₁
    refine ⟨x₁, ?_, hx₁⟩
    cases left with
    | zero => exact htile.bind (Program.noting_done _ x₁)
    | succ left =>
      refine htile.bind ?_
      simp only [hend, decide_true, Bool.not_true, Bool.false_eq_true, ↓reduceIte]
      exact Program.noting_done _ x₁
  | succ rest ih =>
    obtain ⟨left, rfl⟩ : ∃ less, left = less + 1 := ⟨left - 1, by omega⟩
    have hmoved : ¬ r.scrolled overlap (stop n) = stop n := by
      rw [p.next n (by omega)]
      exact (p.moves n (by omega)).ne'
    rw [p.next n (by omega)] at hx₁
    obtain ⟨x₂, hnext, hx₂⟩ := h.noting_captureTile ho x₁ (hx₁ ▸ p.stop_le (by omega))
    rw [hx₁] at hnext hx₂
    obtain ⟨y, hrest, hy⟩ := ih (n + 1) left (by omega) (by omega) x₁ hx₁ x₂ hnext hx₂
    refine ⟨y, ?_, hy⟩
    rw [List.range'_succ, List.map_cons, List.map_cons, List.flatMap_cons]
    refine htile.bind ?_
    simp only [hmoved, decide_false, Bool.not_false, ↓reduceIte]
    rw [← List.append_nil (List.flatMap _ _)]
    exact hrest.bind (Program.noting_done _ y)

end Shown
end Region
end Pageflow.Capture
