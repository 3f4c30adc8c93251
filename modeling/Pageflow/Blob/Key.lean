import Pageflow.Fault
import Pageflow.Text.Quoted
/-!
Blob keys: path hints cleaned to relative keys.
-/
namespace Pageflow.Blob

/-- The components of a slash-separated path. A path that starts with exactly two slashes has
them as a component of their own; empty components and single dots are no components. -/
def components (path : List Char) : List String :=
  let root :=
    match path with
    | '/' :: '/' :: '/' :: _ => ["/"]
    | '/' :: '/' :: _ => ["//"]
    | '/' :: _ => ["/"]
    | _ => []
  root ++ ((Text.splitChars '/' path).map String.ofList).filter fun p => p ≠ "" && p ≠ "."

/-- The components of a hint that enter its key; a backslash counts as a slash. -/
def keyParts (hint : String) : List String :=
  (components (hint.toList.map fun c => if c = '\\' then '/' else c)).filter
    fun p => p ≠ "/" && p ≠ ".."

/-- The key of a path hint. -/
def cleanKey (hint : String) : Result String :=
  let parts := keyParts hint
  if parts.isEmpty then .error (.upload ("Invalid blob path: " ++ Text.quoted hint))
  else .ok (Text.join "/" parts)

end Pageflow.Blob
