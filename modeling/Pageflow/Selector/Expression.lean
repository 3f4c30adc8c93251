import Pageflow.Text.Blank
import Pageflow.Text.Parts
/-!
Selector expressions. An expression is a plain selector, or `text=ANCHOR >> CHILD`, or
`text=ANCHOR >> next >> CHILD`; the anchor may be quoted.
-/
namespace Pageflow

/-- How a selector expression addresses an element. -/
inductive Expression where
  /-- A plain selector. -/
  | direct (selector : String)
  /-- `child` inside the sibling that follows the element with the text `anchor`. -/
  | nextSibling (anchor child : String)
  /-- `child` inside the nearest ancestor of the element with the text `anchor` that has one. -/
  | ancestor (anchor child : String)
deriving DecidableEq

namespace Expression

/-- Without one pair of equal quotes around it. -/
def unquote (cs : List Char) : List Char :=
  match cs with
  | q :: rest =>
    if (q = '\'' || q = '"') && !rest.isEmpty && rest.getLast? = some q then rest.dropLast else cs
  | [] => []

def anchorMark : List Char := "text=".toList
def partMark : List Char := ">>".toList
def nextMark : List Char := "next".toList

/-- The child selector after `next >>`. -/
def afterNext? (rest : List Char) : Option (List Char) :=
  ((Text.dropWord? nextMark rest).bind fun tail =>
    Text.dropWord? partMark (tail.dropWhile Text.isBlank)).map (Text.trimBy Text.isBlank)

/-- Reads an expression; every text is one. -/
def parse (s : String) : Expression :=
  let cs := Text.trimBy Text.isBlank s.toList
  match Text.dropWord? anchorMark cs, Text.cutAt? partMark cs with
  | some _, some (head, rest) =>
    let anchor := String.ofList (unquote (Text.trimBy Text.isBlank (head.drop anchorMark.length)))
    let rest := Text.trimBy Text.isBlank rest
    match afterNext? rest with
    | some child => .nextSibling anchor (String.ofList child)
    | none => .ancestor anchor (String.ofList rest)
  | _, _ => .direct (String.ofList cs)

/-- Writes an expression with the anchor in double quotes. -/
def write : Expression → String
  | .direct selector => selector
  | .nextSibling anchor child => "text=\"" ++ anchor ++ "\" >> next >> " ++ child
  | .ancestor anchor child => "text=\"" ++ anchor ++ "\" >> " ++ child

def mode : Expression → String
  | .direct _ => "direct"
  | .nextSibling _ _ => "next_sibling"
  | .ancestor _ _ => "ancestor"

end Expression
end Pageflow
