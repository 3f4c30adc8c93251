import Pageflow.Fault
import Pageflow.Text.Parts
import Pageflow.Text.Quoted
/-!
Slash-separated paths, and the trees of directories and files that they lead through.
-/
namespace Pageflow

/-- A path as its root and its named parts. The root is empty, one slash, or exactly two. -/
structure Path where
  root : String
  parts : List String
deriving DecidableEq

namespace Path

/-- Reads a path; repeated slashes and single dots carry no meaning. -/
def ofString (s : String) : Path :=
  let root :=
    match s.toList with
    | '/' :: '/' :: '/' :: _ => "/"
    | '/' :: '/' :: _ => "//"
    | '/' :: _ => "/"
    | _ => ""
  ⟨root, (Text.split '/' s).filter fun p => p ≠ "" && p ≠ "."⟩

/-- A path in normal form; the empty path is a single dot. -/
def toString (p : Path) : String :=
  if p.root.isEmpty && p.parts.isEmpty then "." else p.root ++ Text.join "/" p.parts

instance : ToString Path := ⟨toString⟩

def isAbsolute (p : Path) : Bool := !p.root.isEmpty

/-- `q` seen from `p`: an absolute path stands for itself. -/
def join (p q : Path) : Path := if q.isAbsolute then q else ⟨p.root, p.parts ++ q.parts⟩

def child (p : Path) (name : String) : Path := p.join (ofString name)

def parent (p : Path) : Path := ⟨p.root, p.parts.dropLast⟩

/-- The last part of a path. -/
def name (p : Path) : String := p.parts.getLast?.getD ""

/-- Whether `p` lies strictly below `q`. -/
def isBelow (p q : Path) : Bool :=
  p.root = q.root && q.parts.isPrefixOf p.parts && q.parts.length < p.parts.length

end Path

/-! ## Trees

Directories and files with contents of one type, by absolute path. -/

/-- What stands at a path. -/
inductive Entry (α : Type) where
  | directory
  | file (content : α)

/-- The entries of a file system; the parent of every entry but the root is a directory. -/
structure FileTree (α : Type) where
  entries : List (Path × Entry α)

namespace FileTree

variable {α : Type}

def empty : FileTree α := ⟨[]⟩

instance : Inhabited (FileTree α) := ⟨empty⟩

/-- What stands at a path; the root is always a directory. -/
def get? (t : FileTree α) (p : Path) : Option (Entry α) :=
  if p.parts.isEmpty then some .directory
  else (t.entries.find? fun e => e.1 = p).map (·.2)

def isDirectory (t : FileTree α) (p : Path) : Bool :=
  match t.get? p with
  | some .directory => true
  | _ => false

def isFile (t : FileTree α) (p : Path) : Bool :=
  match t.get? p with
  | some (.file _) => true
  | _ => false

/-- A failure of the file system with its number, its text and the path it is about. -/
def failure (name : String) (number : Nat) (text : String) (p : Path) : Fault :=
  .foreign name
    ("[Errno " ++ ToString.toString number ++ "] " ++ text ++ ": " ++ Text.quoted p.toString)

def notFound (p : Path) : Fault := failure "FileNotFoundError" 2 "No such file or directory" p
def exists' (p : Path) : Fault := failure "FileExistsError" 17 "File exists" p
def notDirectory (p : Path) : Fault := failure "NotADirectoryError" 20 "Not a directory" p
def isADirectory (p : Path) : Fault := failure "IsADirectoryError" 21 "Is a directory" p
def nameTooLong (p : Path) : Fault := failure "OSError" 36 "File name too long" p

/-- The paths on the way to `p`, from the first part on and without `p` itself. -/
def ancestors (p : Path) : List Path :=
  (List.range p.parts.length).tail.map fun n => ⟨p.root, p.parts.take n⟩

/-- Why a path cannot even be looked up. -/
def unreachable (t : FileTree α) (p : Path) : Option Fault :=
  if p.parts.any fun s => s.toList.contains (Char.ofNat 0) then
    some (.foreign "ValueError" "embedded null byte")
  else if (ancestors p).any t.isFile then some (notDirectory p)
  else if p.parts.any fun s => 255 < s.utf8ByteSize then some (nameTooLong p)
  else none

/-- Whether something stands at a path. A name that is too long cannot be looked for. -/
def holds (t : FileTree α) (p : Path) : Result Bool :=
  match t.unreachable p with
  | some fault => if fault = nameTooLong p then .error fault else .ok false
  | none => .ok (t.get? p).isSome

/-- The content of a file. -/
def read (t : FileTree α) (p : Path) : Result α :=
  match t.unreachable p with
  | some fault => .error fault
  | none =>
    match t.get? p with
    | some (.file content) => .ok content
    | some .directory => .error (isADirectory p)
    | none => .error (notFound p)

/-- Puts an entry at a path. -/
def put (t : FileTree α) (p : Path) (e : Entry α) : FileTree α :=
  if (t.entries.any fun x => x.1 = p) then
    ⟨t.entries.map fun x => if x.1 = p then (p, e) else x⟩
  else ⟨t.entries ++ [(p, e)]⟩

/-- Makes a directory and those above it. -/
def makeDirectory (t : FileTree α) (p : Path) : Result (FileTree α) :=
  match t.unreachable p with
  | some fault => .error fault
  | none =>
    if t.isFile p then .error (exists' p)
    else .ok <| (ancestors p ++ [p]).foldl
      (fun t q => if (t.get? q).isNone then t.put q .directory else t) t

/-- Writes a file, making the directory it lies in. -/
def write (t : FileTree α) (p : Path) (content : α) : Result (FileTree α) := do
  let t ← t.makeDirectory p.parent
  match t.unreachable p with
  | some fault => throw fault
  | none =>
    if t.isDirectory p then throw (isADirectory p)
    else pure (t.put p (.file content))

/-- The entries directly inside a directory. -/
def list (t : FileTree α) (p : Path) : List (Path × Entry α) :=
  t.entries.filter fun e => e.1.parent = p && e.1 ≠ p

/-- The files below a directory, with their paths as seen from there. -/
def filesBelow (t : FileTree α) (p : Path) : List (String × α) :=
  t.entries.filterMap fun (q, e) =>
    match e with
    | .file content =>
      if q.isBelow p then some (Text.join "/" (q.parts.drop p.parts.length), content) else none
    | .directory => none

end FileTree
end Pageflow
