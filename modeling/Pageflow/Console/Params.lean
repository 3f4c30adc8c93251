import Pageflow.Fault
import Pageflow.Json.Value
import Pageflow.Text.Quoted
/-!
Placeholder values given on the command line as `key=value`.
-/
namespace Pageflow.Console

/-- The key and the value of one pair; the key is trimmed and must not be empty. -/
def param (pair : String) : Result (String × String) :=
  match Text.cutAt? ['='] pair.toList with
  | some (key, value) =>
    let key := Text.trimBy Text.isBlank key
    if key.isEmpty then .error (.foreign "BadParameter" ("Expected key=value, got " ++ Text.quoted pair))
    else .ok (String.ofList key, String.ofList value)
  | none => .error (.foreign "BadParameter" ("Expected key=value, got " ++ Text.quoted pair))

/-- The table of all pairs; of a repeated key the last value counts. -/
def params (pairs : List String) : Result (List (String × String)) :=
  (pairs.mapM param).map Json.table

end Pageflow.Console
