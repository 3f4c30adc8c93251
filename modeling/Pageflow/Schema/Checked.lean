import Pageflow.Json.Value
import Pageflow.Schema.Issue
/-!
Checking documents. A check yields a value or every issue it found, in the order of the fields;
`<*>` goes on after a failure so that no issue is lost.
-/
namespace Pageflow.Schema

/-- A checked value, or the issues that keep it from being one. -/
inductive Checked (α : Type) where
  | valid (a : α)
  | invalid (issues : List Issue)

namespace Checked

def map {α β : Type} (f : α → β) : Checked α → Checked β
  | .valid a => .valid (f a)
  | .invalid issues => .invalid issues

/-- Both checks are made; the issues of the first come before those of the second. -/
def seq {α β : Type} : Checked (α → β) → Checked α → Checked β
  | .valid f, .valid a => .valid (f a)
  | .valid _, .invalid issues => .invalid issues
  | .invalid issues, .valid _ => .invalid issues
  | .invalid first, .invalid second => .invalid (first ++ second)

instance : Functor Checked := ⟨map, fun a => map fun _ => a⟩
instance : Applicative Checked where
  pure := .valid
  seq f x := seq f (x ())

/-- A single issue at the document itself. -/
def fail {α : Type} (cause : Cause) : Checked α := .invalid [⟨[], cause⟩]

/-- The second check is made only on a valid value. -/
def andThen {α β : Type} (x : Checked α) (f : α → Checked β) : Checked β :=
  match x with
  | .valid a => f a
  | .invalid issues => .invalid issues

/-- The check of a part: its issues lie one segment further down. -/
def under {α : Type} (segment : Segment) : Checked α → Checked α
  | .valid a => .valid a
  | .invalid issues =>
    .invalid (issues.map fun issue => { issue with location := segment :: issue.location })

def toExcept {α : Type} : Checked α → Except (List Issue) α
  | .valid a => .ok a
  | .invalid issues => .error issues

def toOption {α : Type} : Checked α → Option α
  | .valid a => some a
  | .invalid _ => none

end Checked

/-- Checks the items of a list from index `start` on. -/
def checkItems {α : Type} (check : Json → Checked α) (start : Nat) : List Json → Checked (List α)
  | [] => .valid []
  | j :: rest =>
    List.cons <$> (check j).under (.index start) <*> checkItems check (start + 1) rest

/-- Checks an array and each of its items. -/
def listOf {α : Type} (check : Json → Checked α) : Json → Checked (List α)
  | .arr items => checkItems check 0 items
  | _ => .fail .listType

/-- Checks the values of a table. -/
def checkValues {α : Type} (check : Json → Checked α) :
    List (String × Json) → Checked (List (String × α))
  | [] => .valid []
  | (key, j) :: rest =>
    List.cons <$> ((key, ·) <$> (check j).under (.key key)) <*> checkValues check rest

/-- Checks an object as a table with values of one kind. -/
def tableOf {α : Type} (check : Json → Checked α) : Json → Checked (List (String × α))
  | .obj fields => checkValues check fields
  | _ => .fail .dictType

/-- Where a field of a document is found: by its name in documents, then by its plain name. -/
def findField (fields : List (String × Json)) (written name : String) : Option (String × Json) :=
  match fields.lookup written with
  | some j => some (written, j)
  | none => (fields.lookup name).map (name, ·)

/-- A field that has to be there. -/
def required {α : Type} (fields : List (String × Json)) (written name : String)
    (check : Json → Checked α) : Checked α :=
  match findField fields written name with
  | some (key, j) => (check j).under (.key key)
  | none => (Checked.fail .missing).under (.key written)

/-- A field with a value to fall back on. -/
def optional {α : Type} (fields : List (String × Json)) (written name : String)
    (default : α) (check : Json → Checked α) : Checked α :=
  match findField fields written name with
  | some (key, j) => (check j).under (.key key)
  | none => .valid default

/-- `null` as nothing, anything else as `check` says. -/
def nullable {α : Type} (check : Json → Checked α) : Json → Checked (Option α)
  | .null => .valid none
  | j => some <$> check j

end Pageflow.Schema
