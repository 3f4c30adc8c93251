import Pageflow.Json.Value
import Pageflow.Text.Case
import Pageflow.Text.Parts
import Pageflow.Text.Utf8
/-!
Requests and responses, and what a request is for. The path of a request is read from its target:
what follows a `?` or a `#` is no part of it, dot segments are carried out, and percent escapes are
decoded.
-/
namespace Pageflow.Http

/-- A request. Header names are in lower case. -/
structure Request where
  method : String
  target : String
  headers : List (String × String) := []
  content : String := ""

/-- The content of a response. -/
inductive Content where
  | json (value : Json)
  | text (content : String)

/-- A response; `allowedOrigin` names the origin whose pages may read it. -/
structure Response where
  status : Nat
  content : Content
  allowedOrigin : Option String := none

/-- A response that only says what is the matter. -/
def Response.detail (status : Nat) (text : String) : Response :=
  ⟨status, .json (.obj [("detail", .str text)]), none⟩

/-- The response as a method is answered: what only asks for the head gets no content. -/
def Response.forMethod (r : Response) (method : String) : Response :=
  if method = "HEAD" then { r with content := .text "" } else r

/-- The text before the first of some characters. -/
def beforeAny (marks : List Char) (s : String) : String :=
  String.ofList (s.toList.takeWhile fun c => !marks.contains c)

/-- Takes one segment more: a single dot is passed over and two dots undo the segment before. -/
def addSegment (segments : List String) (segment : String) : List String :=
  if segment = "." then segments
  else if segment = ".." then
    if segments.isEmpty || segments = [""] then segments else segments.dropLast
  else segments ++ [segment]

/-- The path of a target. -/
def pathOf (target : String) : String :=
  let segments := (Text.split '/' (beforeAny ['?', '#'] target)).foldl addSegment []
  Text.percentDecode (Text.join "/" segments)

namespace Request

def header? (r : Request) (name : String) : Option String := r.headers.lookup name

/-- The segments of the path after its first slash. -/
def segments (r : Request) : List String := (Text.split '/' (pathOf r.target)).drop 1

end Request

/-! ## Routes

A path may belong to several endpoints that differ in their methods; a path that only a slash at its
end keeps from an endpoint is redirected. -/

/-- What can be asked for. -/
inductive Endpoint where
  | health
  | status
  | submit
  | execute
  | batch
  | task (taskId : String)
  | resume (taskId : String)
  | workflows
  | workflow (workflowId : String)
deriving DecidableEq

/-- The method by which an endpoint is asked. -/
def Endpoint.method : Endpoint → String
  | .submit | .execute | .batch | .resume _ => "POST"
  | .health | .status | .task _ | .workflows | .workflow _ => "GET"

/-- The endpoint of a path that ends with a name, unless the name is empty. -/
def named (endpoint : String → Endpoint) (name : String) : List Endpoint :=
  if name.isEmpty then [] else [endpoint name]

/-- The endpoints of a path, those with a fixed path first. -/
def endpoints : List String → List Endpoint
  | ["health"] => [.health]
  | ["status"] => [.status]
  | ["tasks"] => [.submit]
  | ["tasks", "execute"] => [.execute, .task "execute"]
  | ["tasks", "batch"] => [.batch, .task "batch"]
  | ["tasks", taskId] => named .task taskId
  | ["tasks", taskId, "resume"] => named .resume taskId
  | ["workflows"] => [.workflows]
  | ["workflows", workflowId] => named .workflow workflowId
  | _ => []

/-- Where a request leads. -/
inductive Route where
  | endpoint (e : Endpoint)
  | wrongMethod
  | redirected
  | unknown
deriving DecidableEq

/-- A path without the slashes at its end. -/
def withoutEndSlash (segments : List String) : List String :=
  (segments.reverse.dropWhile String.isEmpty).reverse

/-- The route of a method and a path. -/
def route (method : String) (segments : List String) : Route :=
  match (endpoints segments).find? (·.method = method) with
  | some e => .endpoint e
  | none =>
    if !(endpoints segments).isEmpty then .wrongMethod
    else if segments.getLast? = some "" && !(endpoints (withoutEndSlash segments)).isEmpty then
      .redirected
    else .unknown

/-! ## Pages of other origins

A page may read a response if its origin is among the allowed ones; before some requests a browser
asks whether they are allowed. -/

/-- Whether pages of an origin may read responses. -/
def isAllowedOrigin (allowed : List String) (origin : String) : Bool :=
  allowed.contains "*" || allowed.contains origin

/-- The methods that pages of other origins may use. -/
def sharedMethods : List String := ["DELETE", "GET", "HEAD", "OPTIONS", "PATCH", "POST", "PUT"]

/-- The answer to the question whether a page of an origin may use a method. -/
def preflight (allowed : List String) (origin method : String) : Response :=
  let good := isAllowedOrigin allowed origin
  let failures := (if good then [] else ["origin"]) ++
    (if sharedMethods.contains method then [] else ["method"])
  let allowedOrigin := if good then some origin else none
  if failures.isEmpty then ⟨200, .text "OK", allowedOrigin⟩
  else ⟨400, .text ("Disallowed CORS " ++ ", ".intercalate failures), allowedOrigin⟩

/-- The answer to a browser's question before a request, if it is one. -/
def preflight? (allowed : List String) (r : Request) : Option Response :=
  if r.method ≠ "OPTIONS" then none
  else do
    let origin ← r.header? "origin"
    let method ← r.header? "access-control-request-method"
    pure (preflight allowed origin method)

/-- Names the origin that may read a response, where the request has one. Where all origins are
allowed it is only named to requests with cookies. -/
def Response.share (allowed : List String) (r : Request) (response : Response) : Response :=
  match r.header? "origin" with
  | none => response
  | some origin =>
    let named :=
      if allowed.contains "*" then
        if (r.header? "cookie").isSome then some origin else some "*"
      else if allowed.contains origin then some origin
      else none
    { response with allowedOrigin := named }

end Pageflow.Http
