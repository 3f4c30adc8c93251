import Pageflow.Fault
import Pageflow.Json.Writer
import Pageflow.Text.Case
/-!
Challenge detection: which of the elements that a page lists counts as a challenge. An element
counts if it is visible and its text holds one of the keywords; without keywords being visible is
enough.
-/
namespace Pageflow.Challenge

/-- Which elements and which keywords make a challenge. -/
structure Detector where
  selectors : List String
  /-- In lower case, none of them empty. -/
  keywords : List String
deriving DecidableEq

/-- A detector for some keywords in any case; empty ones are left out. -/
def Detector.new (selectors keywords : List String) : Detector :=
  ⟨selectors, (keywords.filter (!·.isEmpty)).map Text.lower⟩

/-- Why there is no challenge. -/
inductive Reason where
  | pageClosed
  | pageUnavailable
  | absent
  | notVisible
  | noKeyword
deriving DecidableEq

def Reason.name : Reason → String
  | .pageClosed => "page_closed"
  | .pageUnavailable => "page_unavailable"
  | .absent => "absent"
  | .notVisible => "not_visible"
  | .noKeyword => "no_keyword"

/-- What was found on a page, and the address of the page if it was asked for. -/
inductive Detection where
  | found (selector keyword url : String)
  | dismissed (reason : Reason) (url : String)
deriving DecidableEq

def Detection.isFound : Detection → Bool
  | .found _ _ _ => true
  | .dismissed _ _ => false

/-- An element that may be a challenge. -/
structure Candidate where
  selector : String
  visible : Bool
  text : String
deriving DecidableEq

/-- What a page lists of a candidate. -/
def Candidate.toJson (c : Candidate) : Json :=
  .obj [("selector", c.selector), ("visible", c.visible), ("text", c.text)]

/-- A candidate as the page lists it. -/
def Candidate.ofJson : Json → Result Candidate
  | .obj fields =>
    let text := (fields.lookup "text").getD .null
    .ok { selector := ((fields.lookup "selector").getD (.str "")).display
          visible := ((fields.lookup "visible").getD .null).truthy
          text := if text.truthy then text.display else "" }
  | j =>
    .error (.foreign "AttributeError" ("'" ++ j.kindName ++ "' object has no attribute 'get'"))

/-- The candidates that a page lists; nothing at all is an empty list. -/
def candidates (listed : Json) : Result (List Candidate) :=
  if !listed.truthy then .ok []
  else
    match listed with
    | .arr items => items.mapM Candidate.ofJson
    | .str s => s.toList.mapM fun c => Candidate.ofJson (.str c.toString)
    | .obj fields => fields.mapM fun (key, _) => Candidate.ofJson (.str key)
    | j => .error (.foreign "TypeError" ("'" ++ j.kindName ++ "' object is not iterable"))

namespace Detector

/-- The first keyword that a text holds in any case. -/
def keywordIn? (d : Detector) (text : String) : Option String :=
  d.keywords.find? (Text.contains (Text.lower text))

/-- What makes a candidate a challenge: a keyword, or nothing where there are no keywords. -/
def match? (d : Detector) (c : Candidate) : Option String :=
  if d.keywords.isEmpty then some "" else d.keywordIn? c.text

/-- The first of the visible candidates that is a challenge. -/
def firstMatch? (d : Detector) : List Candidate → Option (Candidate × String)
  | [] => none
  | c :: rest =>
    match d.match? c with
    | some keyword => some (c, keyword)
    | none => d.firstMatch? rest

/-- What the candidates of a page amount to. -/
def judge (d : Detector) (cs : List Candidate) (url : String) : Detection :=
  match cs.filter (·.visible) with
  | [] => .dismissed (if cs.isEmpty then .absent else .notVisible) url
  | visible =>
    match d.firstMatch? visible with
    | some (c, keyword) => .found c.selector keyword url
    | none => .dismissed .noKeyword url

end Detector
end Pageflow.Challenge
