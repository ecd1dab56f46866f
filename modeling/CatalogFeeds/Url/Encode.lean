import CatalogFeeds.Text.Percent
/-!
Which characters are percent-encoded in which part of a URL.

Each part has its own set; all of them hold the control characters and everything outside
ASCII.
-/

namespace CatalogFeeds.Url

open CatalogFeeds.Text

/-- Control characters and characters outside ASCII. -/
def encodedAnywhere (c : Char) : Bool :=
  c.toNat < 0x20 || 0x7E < c.toNat

/-- The characters encoded in a fragment. -/
def encodedInFragment (c : Char) : Bool :=
  encodedAnywhere c || [' ', '"', '<', '>', '`'].contains c

/-- The characters encoded in a path. -/
def encodedInPath (c : Char) : Bool :=
  encodedInFragment c || ['#', '?', '\x7b', '\x7d'].contains c

/-- The characters encoded in a user name or password. -/
def encodedInUserinfo (c : Char) : Bool :=
  encodedInPath c || ['/', ':', ';', '=', '@', '[', '\\', ']', '^', '|'].contains c

/-- The characters encoded in a query. -/
def encodedInQuery (special : Bool) (c : Char) : Bool :=
  encodedAnywhere c || [' ', '"', '#', '<', '>'].contains c || (special && c == '\'')

end CatalogFeeds.Url
