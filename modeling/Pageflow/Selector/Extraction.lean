import Pageflow.Activity.Basic
import Pageflow.Selector.Expression
import Pageflow.Text.Parts
/-!
Extracting the text that a selector expression addresses. What is not found is a miss with its
reason, and so is a fault of the browser.
-/
namespace Pageflow

open Browser

/-- What an extraction yields. A page gives the reason of a miss in any form. -/
inductive Extraction where
  | value (text : String)
  | miss (reason : Json)

namespace Extraction

/-- The result of one of the page's scripts. -/
def ofScript : Json → Extraction
  | .obj fields =>
    match fields.lookup "value" with
    | some .null | none => .miss ((fields.lookup "error").getD (.str "no result"))
    | some found => .value found.display
  | _ => .miss (.str "no result")

/-- A miss because the page failed: the first line of the message, or the name of the fault. -/
def ofFault (fault : Fault) : Extraction :=
  let line := if fault.message.isEmpty then fault.name else Text.firstLine fault.message
  .miss (.str ("page error: " ++ line))

def text? : Extraction → Option String
  | .value text => some text
  | .miss _ => none

end Extraction

/-- Reads the text of an element, without the white space around it. -/
def readElement (element : ElementRef) : Activity Extraction := do
  let text ← element.call .textContent
  return .value (Text.trim (text.getD ""))

/-- Waits for the element of a plain selector and reads it. -/
def extractDirect (page : PageRef) (timeoutMs : Int) (selector : String) : Activity Extraction := do
  if selector.isEmpty then return .miss (.str "empty selector")
  match ← (page.call (.waitFor selector timeoutMs)).attempt with
  | .ok (some element) => readElement element
  | .ok none => return .miss (.str ("element not found: " ++ selector))
  | .error (.browserTimeout _) =>
    return .miss (.str ("element not visible within " ++ toString timeoutMs ++ "ms: " ++ selector))
  | .error fault => .fail fault

/-- Extracts the text that an expression addresses; only faults of the browser are misses. -/
def extract (page : PageRef) (timeoutMs : Int) (e : Expression) : Activity Extraction :=
  Program.rescueIf
    (match e with
      | .direct selector => extractDirect page timeoutMs selector
      | .nextSibling anchor child => .ofScript <$> page.call (.readNextSibling anchor child)
      | .ancestor anchor child => .ofScript <$> page.call (.readAncestor anchor child))
    Fault.fromBrowser fun fault => pure (.ofFault fault)

end Pageflow
