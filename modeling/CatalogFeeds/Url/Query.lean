import CatalogFeeds.Url.Parser
/-!
Queries as lists of pairs.

A query is read as a form: pairs separated by ampersands, names from values by the first equals
sign, spaces as plus signs. Pairs are written the same way; adding pairs to a query leaves what
is already there as it is.
-/

namespace CatalogFeeds

open CatalogFeeds.Text

/-- The text of a name or value in a form. -/
def Text.formDecode (cs : List Char) : String :=
  String.ofList (decodeLossy (percentDecode (cs.map fun c => if c == '+' then ' ' else c)))

/-- The pair that a part of a form stands for. -/
def Text.formPair (cs : List Char) : String × String :=
  match splitOnce '=' cs with
  | some (name, value) => (formDecode name, formDecode value)
  | none => (formDecode cs, "")

/-- The pairs of a form. -/
def Text.formPairs (form : String) : List (String × String) :=
  ((splitAll '&' form.toList).filter (!·.isEmpty)).map formPair

/-- Writes a pair behind a form. -/
def Text.appendPair (form : String) (pair : String × String) : String :=
  form ++ (if form.isEmpty then "" else "&") ++ formEncode pair.1 ++ "=" ++ formEncode pair.2

/-- Writes pairs behind a form. -/
def Text.appendPairs (form : String) (pairs : List (String × String)) : String :=
  pairs.foldl appendPair form

namespace Url

/-- The pairs of the query. -/
def queryPairs (url : Url) : List (String × String) :=
  formPairs (url.query.getD "")

/-- The URL with pairs added behind its query. -/
def addPairs (url : Url) (pairs : List (String × String)) : Url :=
  { url with query := some (appendPairs (url.query.getD "") pairs) }

/-- The URL with pairs in the place of its query. -/
def withPairs (url : Url) (pairs : List (String × String)) : Url :=
  { url with query := some (appendPairs "" pairs) }

end Url

end CatalogFeeds
