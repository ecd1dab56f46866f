import CatalogFeeds.Members
import CatalogFeeds.Time.Instant
/-!
File trees.

A directory holds named files and directories, in the order of their names; both know when they
were last changed. Paths are lists of names from the root of the tree. The operations fail where
those of an operating system do for the shape of the tree, and with the same errors: looking up a
path stops at the first name that is too long, missing, or below a file.
-/

namespace CatalogFeeds

open CatalogFeeds.Time

/-- Why an operation on files fails: for the shape of their tree, or for what else the system says,
such as a permission that is missing or a device that is full. -/
inductive OsError where
  | notFound
  | exists
  | notADirectory
  | isADirectory
  | nameTooLong
  | other (phrase : String)
  deriving DecidableEq, Repr

/-- The phrase that reports an error. -/
def OsError.message : OsError → String
  | notFound => "No such file or directory (os error 2)"
  | .exists => "File exists (os error 17)"
  | notADirectory => "Not a directory (os error 20)"
  | isADirectory => "Is a directory (os error 21)"
  | nameTooLong => "File name too long (os error 36)"
  | other phrase => phrase

/-- A file with its content, or a directory, and when it was last changed. -/
inductive FileTree where
  | file (content : ByteArray) (modified : Instant)
  | directory (modified : Instant) (entries : List (String × FileTree))

namespace FileTree

/-- A directory without entries. -/
def empty (now : Instant) : FileTree :=
  directory now []

/-- When a file or directory was last changed. -/
def modified : FileTree → Instant
  | file _ modified => modified
  | directory modified _ => modified

/-- Whether a name has more than the 255 bytes there is room for. -/
def isTooLong (name : String) : Bool :=
  255 < name.utf8ByteSize

/-- What is at a path. -/
def find : FileTree → List String → Except OsError FileTree
  | tree, [] => .ok tree
  | file .., _ :: _ => .error .notADirectory
  | directory _ entries, name :: rest =>
    if isTooLong name then .error .nameTooLong
    else match Members.get? name entries with
      | some tree => tree.find rest
      | none => .error .notFound

/-- Makes the directories on a path, and tells why it stopped if it did. -/
def makeDirectories (now : Instant) : FileTree → List String → FileTree × Option OsError
  | tree, [] => (tree, none)
  | file content modified, _ :: _ => (file content modified, some .notADirectory)
  | directory modified entries, name :: rest =>
    if isTooLong name then (directory modified entries, some .nameTooLong)
    else match Members.get? name entries with
      | none =>
        let (tree, failed) := makeDirectories now (empty now) rest
        (directory now (Members.insert name tree entries), failed)
      | some (file ..) =>
        (directory modified entries, some (if rest.isEmpty then .exists else .notADirectory))
      | some tree =>
        let (tree, failed) := makeDirectories now tree rest
        (directory modified (Members.insert name tree entries), failed)

/-- The tree with a file in a directory that is already there, if it has a place for it. -/
def writeFile (now : Instant) (content : ByteArray) :
    FileTree → List String → Except OsError FileTree
  | _, [] => .error .isADirectory
  | file .., _ :: _ => .error .notADirectory
  | directory modified entries, name :: rest =>
    if isTooLong name then .error .nameTooLong
    else match Members.get? name entries, rest with
      | none, [] => .ok (directory now (Members.insert name (file content now) entries))
      | none, _ :: _ => .error .notFound
      | some (directory ..), [] => .error .isADirectory
      | some (file ..), [] =>
        .ok (directory modified (Members.insert name (file content now) entries))
      | some tree, next :: others =>
        (tree.writeFile now content (next :: others)).map fun tree =>
          directory modified (Members.insert name tree entries)

/-- Sets when the file at a path was last changed, if there is one. -/
def setModified? (time : Instant) : FileTree → List String → Option FileTree
  | file content _, [] => some (file content time)
  | directory modified entries, name :: rest => do
    let tree ← Members.get? name entries
    let tree ← tree.setModified? time rest
    some (directory modified (Members.insert name tree entries))
  | _, _ => none

mutual

/-- The files of a tree by their paths, which begin with the given one. -/
def filesBelow (place : List String) : FileTree → List (List String × ByteArray)
  | file content _ => [(place, content)]
  | directory _ entries => filesAmong place entries

/-- The files of the entries of a directory. -/
def filesAmong (place : List String) : List (String × FileTree) → List (List String × ByteArray)
  | [] => []
  | (name, tree) :: rest => tree.filesBelow (place ++ [name]) ++ filesAmong place rest

end

/-- The files of a tree by their paths. -/
def files (tree : FileTree) : List (List String × ByteArray) :=
  tree.filesBelow []

/-- The files below a directory, by their paths from there. -/
def filesAt (tree : FileTree) (place : List String) : List (List String × ByteArray) :=
  match tree.find place with
  | .ok found => found.files
  | .error _ => []

end FileTree

end CatalogFeeds
