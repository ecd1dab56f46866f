import CatalogFeeds.Cache.Segment
import CatalogFeeds.Files.Path
import CatalogFeeds.Files.Storage
/-!
A cache of payloads in files.

Every key has one file below the base directory of the cache, whose path is made of the safe
names of the segments. An entry is found as long as it was not last written before a given
instant; nothing is ever removed.
-/

namespace CatalogFeeds

open CatalogFeeds.Time

/-- Why an entry cannot be read or written. -/
inductive StoreError where
  | io (path : String) (cause : OsError)
  | directoryCreation (path : String) (cause : OsError)
  | write (path : String) (cause : OsError)
  | invalidKey (reason : String)
  | configuration (reason : String)
  deriving DecidableEq, Repr

/-- The sentence that reports an error. -/
def StoreError.message : StoreError → String
  | io path cause => "I/O error on " ++ FilePath.shown path ++ ": " ++ cause.message
  | directoryCreation path cause =>
    "Failed to create directory: " ++ FilePath.shown path ++ " - " ++ cause.message
  | write path cause =>
    "Failed to write cache for file " ++ FilePath.shown path ++ ": " ++ cause.message
  | invalidKey reason => "Invalid cache key: " ++ reason
  | configuration reason => "Configuration error: " ++ reason

/-- A cache: where its base directory is, and what it is called in messages. -/
structure PayloadStore where
  base : String
  place : List String
  deriving DecidableEq, Repr

namespace PayloadStore

/-- The cache below a directory, which must have a name. -/
def make (directory : String) : Except StoreError PayloadStore :=
  if directory.isEmpty then .error (.configuration "Base directory is required")
  else .ok ⟨directory, FilePath.place directory⟩

/-- The names of the path of a key, from the base directory on. -/
def fileNames (key : List String) : Except StoreError (List String) :=
  if key.isEmpty then .error (.invalidKey "at least one key segment is required")
  else .ok (Segment.safeNames key)

/-- The path of a key in messages. -/
def filePath (cache : PayloadStore) (names : List String) : String :=
  FilePath.joinAll cache.base names

/-- The content of a file or directory that was not last changed before `staleBefore`. -/
def freshContent (found : FileTree) (staleBefore : Instant) : Except OsError (Option ByteArray) :=
  if found.modified.isBefore staleBefore then .ok none
  else match found with
    | .file content _ => .ok (some content)
    | .directory .. => .error .isADirectory

/-- The entry of a key that was not last written before `staleBefore`, if there is one. -/
def freshEntry (cache : PayloadStore) (files : FileTree) (key : List String)
    (staleBefore : Instant) : Except StoreError (Option ByteArray) := do
  let names ← fileNames key
  match files.find (cache.place ++ names) with
  | .error .notFound => return none
  | .error cause => throw (.io (cache.filePath names) cause)
  | .ok found => (freshContent found staleBefore).mapError (.io (cache.filePath names))

/-- Writes the entry of a key. Gives the names of its path, and the files afterwards. -/
def write (cache : PayloadStore) (now : Instant) (files : FileTree) (key : List String)
    (content : ByteArray) (storage : Storage := .sound) :
    Except StoreError (List String) × FileTree :=
  match fileNames key with
  | .error error => (.error error, files)
  | .ok names =>
    match files.makeThrough storage now (cache.place ++ names.dropLast) with
    | (files, some cause) =>
      (.error (.directoryCreation (cache.filePath names.dropLast) cause), files)
    | (files, none) =>
      match files.writeThrough storage now content (cache.place ++ names) with
      | (files, some cause) => (.error (.write (cache.filePath names) cause), files)
      | (files, none) => (.ok names, files)

end PayloadStore

end CatalogFeeds
