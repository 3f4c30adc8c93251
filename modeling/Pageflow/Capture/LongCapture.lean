import Pageflow.Activity.Basic
import Pageflow.Capture.Stitch
import Pageflow.Network.Idle
/-!
Long captures: an element that is taller than its visible box is captured piece by piece while it
is scrolled, and the pieces are stitched into one image.
-/
namespace Pageflow.Capture

open Browser

/-- How a long capture proceeds. -/
structure LongOptions where
  overlap : Int := 50
  idleMs : Int := 500
  idleTimeoutMs : Int := 10000
  maxTiles : Int := 200
  timeoutMs : Int := 15000
  /-- Whether to wait for a quiet network after each scroll. -/
  quiet : Bool := false
deriving DecidableEq

/-- The measures of an element, with what the page leaves out filled in. -/
structure Measures where
  content : Double
  viewport : Double
  top : Double
  ratio : Double

def Measures.ofMetrics (m : Metrics) : Measures :=
  { content := m.scrollHeight.getD 0, viewport := m.clientHeight.getD 0, top := m.scrollTop.getD 0
    ratio := match m.pixelRatio with
      | some r => if r.isZero then 1 else r
      | none => 1 }

/-- Measures an element, which has to be there. -/
def measure (page : PageRef) (selector : String) : Activity Measures := do
  match ← page.call (.measure selector) with
  | some m => return .ofMetrics m
  | none => .fail (.elementNotFound selector none)

/-- Waits for a quiet network, but goes on without. -/
def settle (page : PageRef) (o : LongOptions) : Activity Unit :=
  if o.quiet then
    (Network.waitForIdle page { idleMs := o.idleMs, timeoutMs := o.idleTimeoutMs }).rescueIf
      (fun fault => fault matches .networkIdle _ _) fun _ => pure ()
  else pure ()

/-- Captures a tile and scrolls; tells whether that moved the element. -/
def captureTile (page : PageRef) (o : LongOptions) (element : ElementRef) (selector : String) :
    Activity (Picture × Bool) := do
  let tile ← element.call .screenshot
  let before ← measure page selector
  page.call (.advance selector o.overlap)
  settle page o
  let after ← measure page selector
  return (tile, !after.top.eq before.top)

/-- Captures tiles until scrolling no longer moves the element, `left` more than one at most. -/
def captureTiles (page : PageRef) (o : LongOptions) (element : ElementRef) (selector : String) :
    (left : Nat) → Activity (List Picture)
  | 0 => do
    let (tile, _) ← captureTile page o element selector
    return [tile]
  | left + 1 => do
    let (tile, moved) ← captureTile page o element selector
    if moved then
      let rest ← captureTiles page o element selector left
      return tile :: rest
    return [tile]

/-- A picture of the whole content of an element. -/
def captureLong (page : PageRef) (o : LongOptions) (selector : String) : Activity Picture := do
  let element ← page.waitVisible selector o.timeoutMs
  let first ← measure page selector
  if first.content.le first.viewport then
    element.call .screenshot
  else
    let tiles ← captureTiles page o element selector (o.maxTiles - 1).toNat
    let last ← measure page selector
    let image ← Program.ofResult (stitch tiles
      ⟨last.content, last.viewport, Double.ofInt o.overlap, last.ratio⟩)
    return .image image

end Pageflow.Capture
