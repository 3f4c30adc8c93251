import Pageflow.Dom.Tree
import Pageflow.Text.Parts
/-!
Selectors: lists of alternatives, each a chain of conditions on an element and the elements around
it.
-/
namespace Pageflow.Dom

/-- A condition on a single element. -/
inductive Simple where
  | any
  | tag (name : String)
  | id (value : String)
  | ofClass (name : String)
  | has (key : String)
  | equals (key value : String)
deriving DecidableEq

/-- The classes of an element. -/
def Traits.classes (t : Traits) : List String :=
  match t.attributes.lookup "class" with
  | some names => ((Text.splitChars ' ' (names.toList.map fun c =>
      if Text.isScriptBlank c then ' ' else c)).map String.ofList).filter (!·.isEmpty)
  | none => []

def Simple.matches (t : Traits) : Simple → Bool
  | .any => true
  | .tag name => t.tag = name
  | .id value => t.attributes.lookup "id" = some value
  | .ofClass name => name ∈ t.classes
  | .has key => (t.attributes.lookup key).isSome
  | .equals key value => t.attributes.lookup key = some value

/-- Conditions that all hold of one element. -/
abbrev Compound := List Simple

def compoundMatches (c : Compound) (t : Traits) : Bool := c.all (Simple.matches t)

/-- How an element stands to one before it in a chain. -/
inductive Combinator where
  /-- Somewhere inside it. -/
  | descendant
  /-- Right below it. -/
  | child
deriving DecidableEq

/-- A chain of compounds: the one of the element itself, and those of elements around it, the
nearest first. -/
structure Chain where
  subject : Compound
  before : List (Combinator × Compound)
deriving DecidableEq

/-- Whether `p` holds of one of some elements and of those around it. -/
def anyAbove (p : Frame → List Frame → Bool) : List Frame → Bool
  | [] => false
  | f :: up => p f up || anyAbove p up

/-- Whether the elements around an element fit the rest of a chain. -/
def fitsAbove : List (Combinator × Compound) → List Frame → Bool
  | [], _ => true
  | (.child, c) :: rest, above =>
    match above with
    | [] => false
    | f :: up => compoundMatches c f.traits && fitsAbove rest up
  | (.descendant, c) :: rest, above =>
    anyAbove (fun f up => compoundMatches c f.traits && fitsAbove rest up) above

def Chain.matches (c : Chain) (s : Spot) : Bool :=
  compoundMatches c.subject s.here.traits && fitsAbove c.before s.above

/-- Alternatives, one of which has to fit. -/
abbrev Selector := List Chain

def Selector.matches (sel : Selector) (s : Spot) : Bool := List.any sel (Chain.matches · s)

/-- The first element inside `s` that a selector fits. Elements outside of `s` count for the chain. -/
def Selector.firstIn? (sel : Selector) (s : Spot) : Option Spot := s.descendants.find? sel.matches

namespace Selector

/-- Characters of the names in a selector. -/
def isNameChar (c : Char) : Bool := c.isAlphanum || c == '_' || c == '-'

/-- A name at the start, and the rest. -/
def name? (cs : List Char) : Option (String × List Char) :=
  let name := cs.takeWhile isNameChar
  if name.isEmpty then none else some (String.ofList name, cs.dropWhile isNameChar)

/-- The value of an attribute condition up to the closing bracket, with or without quotes. -/
def value? (cs : List Char) : Option (String × List Char) :=
  match cs with
  | '\'' :: rest =>
    match rest.dropWhile (· != '\'') with
    | '\'' :: ']' :: after => some (String.ofList (rest.takeWhile (· != '\'')), after)
    | _ => none
  | '"' :: rest =>
    match rest.dropWhile (· != '"') with
    | '"' :: ']' :: after => some (String.ofList (rest.takeWhile (· != '"')), after)
    | _ => none
  | _ =>
    match name? cs with
    | some (value, ']' :: after) => some (value, after)
    | _ => none

/-- One condition at the start, and the rest. -/
def simple? (cs : List Char) : Option (Simple × List Char) :=
  match cs with
  | '*' :: rest => some (.any, rest)
  | '#' :: rest => (name? rest).map fun (n, rest) => (.id n, rest)
  | '.' :: rest => (name? rest).map fun (n, rest) => (.ofClass n, rest)
  | '[' :: rest =>
    match name? rest with
    | some (n, ']' :: after) => some (.has n, after)
    | some (n, '=' :: after) => (value? after).map fun (v, after) => (.equals n v, after)
    | _ => none
  | _ => (name? cs).map fun (n, rest) => (.tag n, rest)

/-- Whether a condition may stand only at the start of a compound. -/
def isLeading : Simple → Bool
  | .any | .tag _ => true
  | _ => false

/-- The conditions at the start, and the rest. -/
def compound? : (fuel : Nat) → (leading : Bool) → List Char → Compound × List Char
  | 0, _, cs => ([], cs)
  | fuel + 1, leading, cs =>
    match simple? cs with
    | some (s, rest) =>
      if isLeading s && !leading then ([], cs)
      else
        let (more, rest) := compound? fuel false rest
        (s :: more, rest)
    | none => ([], cs)

/-- A chain from compounds read so far, the last one first. -/
def chain? : (fuel : Nat) → (before : List (Combinator × Compound)) → List Char →
    Option (Chain × List Char)
  | 0, _, _ => none
  | fuel + 1, before, cs =>
    let (c, rest) := compound? cs.length true cs
    if c.isEmpty then none
    else
      match rest, rest.dropWhile Text.isScriptBlank with
      | _, [] => some (⟨c, before⟩, [])
      | _, ',' :: after => some (⟨c, before⟩, ',' :: after)
      | _, '>' :: after => chain? fuel ((.child, c) :: before) (after.dropWhile Text.isScriptBlank)
      | next :: _, after =>
        if Text.isScriptBlank next then chain? fuel ((.descendant, c) :: before) after else none
      | [], _ => none

/-- The alternatives of a selector. -/
def chains? : (fuel : Nat) → List Char → Option (List Chain)
  | 0, _ => none
  | fuel + 1, cs =>
    match chain? (cs.length + 1) [] (cs.dropWhile Text.isScriptBlank) with
    | some (c, ',' :: rest) => (chains? fuel rest).map (c :: ·)
    | some (c, _) => some [c]
    | none => none

/-- Reads a selector; a text that is none has no meaning. -/
def parse? (s : String) : Option Selector := chains? (s.length + 1) s.toList

end Selector
end Pageflow.Dom
