import Pageflow.Http.Message
import Pageflow.Json.Reader
import Pageflow.Schema.Scalar
/-!
Bodies of requests: what a body is read as, and the two kinds of document that are asked for.
-/
namespace Pageflow.Http

open Schema

/-- What a body is read as. -/
inductive Body where
  | empty
  | document (j : Json)
  /-- Content that is not declared to be JSON. -/
  | other

/-- Why a body cannot be read. -/
inductive BodyFlaw where
  /-- It is no JSON text from a place on. -/
  | malformed (place : Nat)
  | unreadable
deriving DecidableEq

/-- Whether a media type is JSON or built on JSON. -/
def isJsonType (mediaType : String) : Bool :=
  match Text.split '/' (Text.lower (Text.trim (beforeAny [';'] mediaType))) with
  | ["application", subtype] => subtype = "json" || Text.endsWith subtype "+json"
  | _ => false

/-- The JSON text of a body, without the mark of its byte order. -/
def jsonSource (content : String) : List Char :=
  match content.toList with
  | '\ufeff' :: rest => rest
  | cs => cs

/-- Reads the body of a request. -/
def readBody (r : Request) : Except BodyFlaw Body :=
  if r.content.isEmpty then .ok .empty
  else if ((r.header? "content-type").map isJsonType).getD false then
    match Json.read (jsonSource r.content) with
    | .ok j => .ok (if j.isNull then .empty else .document j)
    | .error f =>
      match f.flaw with
      | .digitLimit _ | .depth _ => .error .unreadable
      | _ => .error (.malformed f.position)
  else .ok .other

/-- Checks a body. -/
def Body.check {α : Type} (check : List (String × Json) → Checked α) (b : Body) : Checked α :=
  (match b with
    | .empty => Checked.fail .missing
    | .document (.obj fields) => check fields
    | .document _ | .other => .fail .objectType).under (.key "body")

/-- The body that asks for a run. -/
structure TaskBody where
  workflowId : String
  inputValue : Option String
  parameters : List (String × String)
  correlationId : String
  metadata : List (String × Json)

def TaskBody.decode (fields : List (String × Json)) : Checked TaskBody :=
  TaskBody.mk <$> required fields "workflow_id" "workflow_id" text
    <*> optional fields "input_value" "input_value" none (nullable text)
    <*> optional fields "parameters" "parameters" [] (tableOf text)
    <*> optional fields "correlation_id" "correlation_id" "" text
    <*> optional fields "metadata" "metadata" [] (tableOf .valid)

/-- Checks a list that must not be empty. -/
def someOf {α : Type} (check : Json → Checked α) (j : Json) : Checked (List α) :=
  (listOf check j).andThen fun items =>
    if items.isEmpty then .fail (.tooShort 1) else .valid items

/-- The body that asks for a batch of runs. -/
structure BatchBody where
  workflowId : String
  inputValues : List String
  parameters : List (String × String)
  metadata : List (String × Json)

def BatchBody.decode (fields : List (String × Json)) : Checked BatchBody :=
  BatchBody.mk <$> required fields "workflow_id" "workflow_id" text
    <*> required fields "input_values" "input_values" (someOf text)
    <*> optional fields "parameters" "parameters" [] (tableOf text)
    <*> optional fields "metadata" "metadata" [] (tableOf .valid)

end Pageflow.Http
