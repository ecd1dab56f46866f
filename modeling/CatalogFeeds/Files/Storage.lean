import CatalogFeeds.Files.Tree
/-!
The storage below a file tree.

A tree tells which paths there is a place for, and its operations fail where there is none. The
storage that holds a tree may refuse all the same. Where it does not let a directory be made or a
file be opened, nothing has changed at that path. Where it has no room for a content, the file has
been opened by then, and opening it has emptied it: a front part of the content is all there is.
-/

namespace CatalogFeeds

open CatalogFeeds.Time

/-- What a storage refuses although a tree has a place for it, and with which error. -/
structure Storage where
  /-- How many directories of a path are made before no more can be. -/
  making : List String → Option (Nat × OsError)
  /-- Why a file cannot be opened for writing. -/
  opening : List String → Option OsError
  /-- How many bytes of a content there is room for in a file that is open. -/
  filling : List String → ByteArray → Option (Nat × OsError)

namespace Storage

/-- The storage that refuses nothing. -/
def sound : Storage where
  making _ := none
  opening _ := none
  filling _ _ := none

/-- What gets into a file that is open, and why that is not all of the content. -/
def taken (storage : Storage) (place : List String) (content : ByteArray) :
    ByteArray × Option OsError :=
  match storage.filling place content with
  | none => (content, none)
  | some (count, cause) => (content.extract 0 count, some cause)

end Storage

namespace FileTree

/-- Makes the directories on a path in a storage, and tells why it stopped if it did. -/
def makeThrough (storage : Storage) (now : Instant) (files : FileTree) (place : List String) :
    FileTree × Option OsError :=
  match storage.making place with
  | none => files.makeDirectories now place
  | some (count, cause) =>
    let (files, failed) := files.makeDirectories now (place.take count)
    (files, some (failed.getD cause))

/-- Writes a file in a storage, into a directory that is already there. Gives the files afterwards,
also where this fails, and why it failed if it did. -/
def writeThrough (storage : Storage) (now : Instant) (content : ByteArray) (files : FileTree)
    (place : List String) : FileTree × Option OsError :=
  match storage.opening place with
  | some cause => (files, some cause)
  | none =>
    let (part, broken) := storage.taken place content
    match files.writeFile now part place with
    | .error cause => (files, some cause)
    | .ok files => (files, broken)

end FileTree

end CatalogFeeds
