import Pageflow.Rehearsal.Scene.Basic
/-!
Files that documents describe: a text, a JSON value, Base64 with its digits of six bits, or `null`
for a directory.
-/
namespace Pageflow.Base64

/-- The value of a digit. -/
def digit? (c : Char) : Option Nat :=
  if c.isUpper then some (c.toNat - 65)
  else if c.isLower then some (c.toNat - 71)
  else if c.isDigit then some (c.toNat + 4)
  else if c = '+' then some 62
  else if c = '/' then some 63
  else none

/-- The bytes that digits stand for; a last group of less than four stands for fewer bytes. -/
def bytes : List Nat → List Nat
  | a :: b :: c :: d :: rest =>
    [a * 4 + b / 16, b % 16 * 16 + c / 4, c % 4 * 64 + d] ++ bytes rest
  | [a, b, c] => [a * 4 + b / 16, b % 16 * 16 + c / 4]
  | [a, b] => [a * 4 + b / 16]
  | _ => []

/-- The bytes that a text stands for; characters that are no digits are passed over. -/
def decode (s : String) : List Nat := bytes (s.toList.filterMap digit?)

end Pageflow.Base64

namespace Pageflow.Rehearsal.Scene

/-- The bytes of a text. -/
def textBytes (s : String) : List Nat := s.toUTF8.toList.map UInt8.toNat

/-- The content of a file; `none` for a directory. -/
def fileContent? : Json → Option (List Nat)
  | .null => none
  | .str s => some (textBytes s)
  | j =>
    match j.textAt? "base64" with
    | some digits => some (Base64.decode digits)
    | none => some (textBytes ((j.getD "json").write Json.spaced))

/-- A tree with one more file or directory. What cannot be written is left out. -/
def withFile {α : Type} (content : List Nat → α) (t : FileTree α) (p : Path) (file : Json) :
    FileTree α :=
  let result := match fileContent? file with
    | some bytes => t.write p (content bytes)
    | none => t.makeDirectory p
  result.toOption.getD t

/-- A tree with the files of a document below a directory. -/
def withFiles {α : Type} (content : List Nat → α) (t : FileTree α) (directory : Path)
    (files : Json) : FileTree α :=
  files.fields.foldl
    (fun t (name, file) => withFile content t (directory.join (Path.ofString name)) file) t

/-- The tree with the files of a document below the directory of the scene. -/
def filesOf (files : Json) : FileTree (List Nat) :=
  withFiles id ((FileTree.empty.makeDirectory rootPath).toOption.getD .empty) rootPath files

end Pageflow.Rehearsal.Scene
