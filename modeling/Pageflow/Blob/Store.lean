import Pageflow.Blob.Key
import Pageflow.Blob.MediaType
import Pageflow.Files.Tree
import Pageflow.Settings.Sections
import Pageflow.Text.Blank
import Pageflow.Text.Utf8
/-!
Blob stores: a directory of the file system, or a bucket of an object store. Storing yields the
address under which the stored object is found; every failure of a backend becomes an upload fault.
-/
namespace Pageflow

/-- The path with steps to the parent carried out. -/
def Path.resolve (p : Path) : Path :=
  ⟨p.root, p.parts.foldl (fun parts part => if part = ".." then parts.dropLast else parts ++ [part]) []⟩

/-- The address of an absolute path. -/
def Path.address (p : Path) : String := "file://" ++ Text.percentEncode p.resolve.toString

namespace Blob

/-- A store that writes files below a root directory. -/
structure FileStore where
  root : Path
  baseUrl : String
deriving DecidableEq

/-- A store that puts objects into a bucket, under keys that begin with `folder`. -/
structure BucketStore where
  bucket : String
  folder : String
  baseUrl : String
deriving DecidableEq

/-- One of the two kinds of store. -/
inductive Store where
  | files (s : FileStore)
  | bucket (s : BucketStore)
deriving DecidableEq

def FileStore.new (root baseUrl : String) : FileStore :=
  ⟨Path.ofString root, Text.trimEndChar '/' baseUrl⟩

/-- The file that an object of a key is written to. -/
def FileStore.target (s : FileStore) (key : String) : Path := s.root.join (Path.ofString key)

/-- The address of the object of a key. -/
def FileStore.url (s : FileStore) (key : String) : String :=
  if s.baseUrl.isEmpty then (s.target key).address else s.baseUrl ++ "/" ++ key

/-- A fault of writing an object: what the file system reports is an upload fault. -/
def writeFault (key : String) : Fault → Fault
  | .foreign "ValueError" message => .foreign "ValueError" message
  | fault => .upload ("Failed to write " ++ key ++ ": " ++ fault.message)

/-- Writes an object and yields its address. -/
def FileStore.upload {α : Type} (s : FileStore) (files : FileTree α) (data : α) (hint : String) :
    Result (String × FileTree α) := do
  let key ← cleanKey hint
  match files.write (s.target key) data with
  | .ok files => pure (s.url key, files)
  | .error fault => throw (writeFault key fault)

/-- A store for a bucket, whose name must not be empty. -/
def BucketStore.new (bucket folder baseUrl : String) : Result BucketStore :=
  if bucket.isEmpty then .error (.foreign "ValueError" "GCSBlobStore requires a bucket name")
  else
    let baseUrl := if baseUrl.isEmpty then "https://storage.googleapis.com/" ++ bucket else baseUrl
    .ok ⟨bucket, Text.trimChar '/' folder, Text.trimEndChar '/' baseUrl⟩

/-- The key of an object in the bucket. -/
def BucketStore.key (s : BucketStore) (hint : String) : Result String :=
  cleanKey (if s.folder.isEmpty then hint else s.folder ++ "/" ++ hint)

/-- The address of the object of a key. -/
def BucketStore.url (s : BucketStore) (key : String) : String := s.baseUrl ++ "/" ++ key

/-- What an upload to the bucket yields when the backend answered `reply`. -/
def BucketStore.finish (s : BucketStore) (key : String) (reply : Result Unit) : Result String :=
  match reply with
  | .ok () => .ok (s.url key)
  | .error (.upload message) => .error (.upload message)
  | .error .cancelled => .error .cancelled
  | .error _ => .error (.upload ("Failed to upload " ++ key ++ " to gs://" ++ s.bucket))

/-- The store that the settings ask for. -/
def Store.ofSettings (s : StorageSettings) : Result Store :=
  if Text.lower s.backend = "gcs" then
    .bucket <$> BucketStore.new s.gcsBucket s.gcsPrefix s.publicBaseUrl
  else .ok (.files (FileStore.new s.localDir s.publicBaseUrl))

end Blob
end Pageflow
