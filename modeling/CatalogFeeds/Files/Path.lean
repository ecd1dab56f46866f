import CatalogFeeds.Text.Ascii
import CatalogFeeds.Text.Quoted
/-!
Paths as texts.

A path in settings and messages is a text with slashes; its place in a file tree is the list of
its names, without empty ones and single dots.
-/

namespace CatalogFeeds.FilePath

open CatalogFeeds.Text

/-- Puts a name behind a path, with one slash between them. -/
def join (path name : String) : String :=
  if path.isEmpty || path.endsWith "/" then path ++ name else path ++ "/" ++ name

/-- Puts names behind a path. -/
def joinAll (path : String) (names : List String) : String :=
  names.foldl join path

/-- The names of a path. -/
def place (path : String) : List String :=
  ((splitAll '/' path.toList).map String.ofList).filter fun name => !name.isEmpty && name != "."

/-- Whether the last name of a path has an extension. -/
def hasExtension (path : String) : Bool :=
  match (place path).getLast? with
  | none => false
  | some ".." => false
  | some name => (name.toList.drop 1).contains '.'

/-- A path in a message. -/
def shown (path : String) : String :=
  String.ofList (quoted path.toList)

end CatalogFeeds.FilePath
