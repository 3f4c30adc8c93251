/-!
Sets of characters given as tables of closed code point ranges in ascending order.
-/
namespace Pageflow.Text

/-- Binary search for `x` among the ranges with indices in `[lo, hi)`; `fuel` bounds the halvings. -/
def searchRanges (table : Array (Nat × Nat)) (x : Nat) : Nat → Nat → Nat → Bool
  | 0, _, _ => false
  | fuel + 1, lo, hi =>
    if lo < hi then
      let mid := (lo + hi) / 2
      let range := table.getD mid (0, 0)
      if x < range.1 then searchRanges table x fuel lo mid
      else if range.2 < x then searchRanges table x fuel (mid + 1) hi
      else true
    else false

/-- Whether a code point lies in one of the ranges of an ascending table. -/
def inRanges (table : Array (Nat × Nat)) (x : Nat) : Bool :=
  searchRanges table x (table.size + 1) 0 table.size

end Pageflow.Text
