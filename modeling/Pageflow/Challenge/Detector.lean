import Pageflow.Challenge.Detection
import Pageflow.Activity.Basic
/-!
Inspecting a page for a challenge. A page that is closed or does not answer shows none.
-/
namespace Pageflow.Challenge.Detector

open Browser

/-- The candidates and the address of a page, unless the page fails to answer. -/
def ask (d : Detector) (page : PageRef) : Activity (Option (Json × String)) :=
  Program.rescue
    (do
      let listed ← page.call (.candidates d.selectors)
      let url ← page.call .url
      pure (some (listed, url)))
    fun _ => pure none

/-- Looks for a challenge on a page, if there is one. -/
def inspect (d : Detector) : Option PageRef → Activity Detection
  | none => pure (.dismissed .pageClosed "")
  | some page => do
    if ← page.call .isClosed then return .dismissed .pageClosed ""
    if d.selectors.isEmpty then return .dismissed .absent ""
    match ← d.ask page with
    | none => return .dismissed .pageUnavailable ""
    | some (listed, url) =>
      let cs ← Program.ofResult (candidates listed)
      return d.judge cs url

/-- Whether a page shows a challenge. -/
def isActive (d : Detector) (page : Option PageRef) : Activity Bool :=
  Detection.isFound <$> d.inspect page

end Pageflow.Challenge.Detector
