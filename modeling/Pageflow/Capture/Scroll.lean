import Pageflow.Activity.Basic
/-!
Scrolling to the bottom: wheel gestures until the picture of the page has not changed for some
rounds. Scrolling never fails; it stops early if the page does.
-/
namespace Pageflow.Capture

open Browser

/-- How far and how long to scroll. -/
structure ScrollOptions where
  delta : Int := 800
  pauseMs : Int := 1500
  stableRounds : Int := 3
  maxRounds : Int := 60
deriving DecidableEq

/-- Parks the mouse over the middle of an element, if it is there and has a place. -/
def hover (page : PageRef) (selector : String) : Activity Unit := do
  match ← page.call (.query selector) with
  | none => pure ()
  | some element =>
    match ← element.call .boundingBox with
    | none => pure ()
    | some box => page.call (.moveMouse (box.x + box.width.div 2) (box.y + box.height.div 2))

/-- The last picture taken and the number of pictures before it that were the same. -/
structure Stillness where
  unchanged : Nat
  last : Option Picture
deriving DecidableEq

/-- Takes in the next picture. -/
def Stillness.next (s : Stillness) (picture : Picture) : Stillness :=
  ⟨if s.last = some picture then s.unchanged + 1 else 0, some picture⟩

/-- Whether the picture has been the same for `rounds` rounds. -/
def Stillness.reached (s : Stillness) (rounds : Int) : Bool := s.unchanged ≠ 0 && rounds ≤ s.unchanged

/-- One round: a picture and, unless the page has come to rest, a gesture. Yields the new state of
rest, or nothing if the page has come to rest. -/
def scrollRound (page : PageRef) (o : ScrollOptions) (s : Stillness) :
    Activity (Option Stillness) := do
  let picture ← page.call (.screenshot false)
  let s := s.next picture
  if s.reached o.stableRounds then return none
  page.call (.wheel 0 o.delta)
  Activity.sleepMs o.pauseMs
  return some s

/-- Scrolls for at most `left` rounds; yields the number of gestures after `rounds` others. -/
def scrollRounds (page : PageRef) (o : ScrollOptions) (rounds : Nat) (s : Stillness) :
    (left : Nat) → Activity Nat
  | 0 => pure rounds
  | left + 1 => do
    match ← (scrollRound page o s).rescue fun _ => pure none with
    | none => pure rounds
    | some s => scrollRounds page o (rounds + 1) s left

/-- Scrolls a page, or the region of a selector, to the bottom; yields the number of gestures. -/
def scrollToBottom (page : PageRef) (selector : String) (o : ScrollOptions) : Activity Nat := do
  let parked ← Program.rescue
    (do
      if !selector.isEmpty then hover page selector
      pure true)
    fun _ => pure false
  if parked then scrollRounds page o 0 ⟨0, none⟩ o.maxRounds.toNat else return 0

end Pageflow.Capture
