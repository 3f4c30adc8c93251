import Pageflow.Fault
import Pageflow.Schema.Checked
/-!
A failed check as a fault.
-/
namespace Pageflow.Schema

/-- The value of a check, or the fault that lists its issues. -/
def Checked.toResult {α : Type} : Checked α → Result α
  | .valid a => .ok a
  | .invalid issues => .error (.invalid issues)

end Pageflow.Schema
