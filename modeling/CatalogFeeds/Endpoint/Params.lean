import CatalogFeeds.Json.Printer
/-!
Parameters of a request.

Parameters keep the order they are given in, which shows in the key a payload is cached under.
To a template they are variables, and a later parameter of a name hides an earlier one.
-/

namespace CatalogFeeds

/-- The parameters of a request, in the order they are given in. -/
structure Params where
  entries : List (String × Json) := []

namespace Params

/-- Whether there is no parameter. -/
def isEmpty (params : Params) : Bool :=
  params.entries.isEmpty

/-- The text of a value in a key: a string as it stands, anything else as JSON. -/
def valueText : Json → String
  | .string s => s
  | value => value.render

/-- The text of a parameter in a key. -/
def entryText (entry : String × Json) : String :=
  entry.1 ++ "=" ++ valueText entry.2

/-- The key that a payload is cached under. -/
def entryName (params : Params) (start : String) : String :=
  start ++ String.join (params.entries.map entryText)

/-- The parameters as variables of a template. -/
def bindings (params : Params) : List (String × Json) :=
  Members.ofList params.entries

end Params

end CatalogFeeds
