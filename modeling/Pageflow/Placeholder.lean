import Pageflow.Text.Blank
import Pageflow.Text.Parts
import Pageflow.Text.Word
/-!
Placeholders: tokens of the form two opening braces, a name between optional blanks, two closing
braces. A template is cut into pieces from left to right; a token whose name has a value is replaced by it,
and everything else stays as it is.
-/
namespace Pageflow.Placeholder

/-- Characters of a placeholder's name. -/
def isNameChar (c : Char) : Bool := Text.isWord c || c == '.' || c == '-'

/-- A token at the start of a text. -/
structure Token (cs : List Char) where
  name : List Char
  raw : List Char
  rest : List Char
  split : raw ++ rest = cs
  raw_ne : raw ≠ []

/-- The token at the start of `cs`, if one stands there. -/
def token? (cs : List Char) : Option (Token cs) :=
  match cs with
  | '{' :: '{' :: body =>
    let before := body.takeWhile Text.isBlank
    let name := (body.dropWhile Text.isBlank).takeWhile isNameChar
    let afterName := (body.dropWhile Text.isBlank).dropWhile isNameChar
    let after := afterName.takeWhile Text.isBlank
    if name.isEmpty then none
    else
      match h : afterName.dropWhile Text.isBlank with
      | '}' :: '}' :: rest =>
        some
          { name, raw := '{' :: '{' :: (before ++ name ++ after ++ ['}', '}']), rest
            split := by
              have h1 : after ++ '}' :: '}' :: rest = afterName := by
                rw [← h]; exact List.takeWhile_append_dropWhile
              have h2 : name ++ afterName = body.dropWhile Text.isBlank :=
                List.takeWhile_append_dropWhile
              have h3 : before ++ body.dropWhile Text.isBlank = body :=
                List.takeWhile_append_dropWhile
              simp only [List.cons_append, List.append_assoc, List.nil_append]
              rw [h1, h2, h3]
            raw_ne := by simp }
      | _ => none
  | _ => none

/-- A piece of a template. -/
inductive Piece where
  | plain (c : Char)
  | token (name raw : List Char)
deriving DecidableEq

/-- The pieces of a template: at each place a token if one starts there, else the one character. -/
def pieces (cs : List Char) : List Piece :=
  match cs with
  | [] => []
  | c :: tail =>
    match token? (c :: tail) with
    | some t => .token t.name t.raw :: pieces t.rest
    | none => .plain c :: pieces tail
termination_by cs.length
decreasing_by
  · have h := congrArg List.length t.split
    have := List.length_pos_iff.mpr t.raw_ne
    simp only [List.length_append] at h
    omega
  · simp

/-- The characters a piece stands for in the template. -/
def Piece.source : Piece → List Char
  | .plain c => [c]
  | .token _ raw => raw

/-- The characters a piece is replaced by. -/
def Piece.resolve (values : List (String × String)) : Piece → List Char
  | .plain c => [c]
  | .token name raw =>
    match values.lookup (String.ofList name) with
    | some value => value.toList
    | none => raw

/-- The whole pass over a template. -/
def resolveAll (values : List (String × String)) (cs : List Char) : List Char :=
  (pieces cs).flatMap (Piece.resolve values)

/-- A template with its known placeholders replaced. A template without two opening braces is
returned as it is. -/
def substitute (template : String) (values : List (String × String)) : String :=
  if Text.contains template "\x7b\x7b" then String.ofList (resolveAll values template.toList)
  else template

end Pageflow.Placeholder
