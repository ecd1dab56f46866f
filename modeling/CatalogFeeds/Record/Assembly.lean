import CatalogFeeds.Record.Field
import CatalogFeeds.Json.Basic
/-!
Putting records together field by field.

A field path leads through nested objects. Setting a field makes the objects on its way, also in
the place of values that are none. A finished record is stamped with the source it was fetched
from and with the key of its endpoint.
-/

namespace CatalogFeeds.Members

/-- The members of an object, and none for any other value. -/
def ofObject : Json → List (String × Json)
  | .object members => members
  | _ => []

/-- Sets the value at a path of keys. -/
def putAt (members : List (String × Json)) : List String → Json → List (String × Json)
  | [], _ => members
  | [key], value => insert key value members
  | key :: rest, value =>
    let inner := ofObject ((get? key members).getD .null)
    insert key (.object (putAt inner rest value)) members

/-- Sets the value at a path of keys that dots separate. -/
def setField (members : List (String × Json)) (path : String) (value : Json) :
    List (String × Json) :=
  putAt members ((Text.splitAll '.' path.toList).map String.ofList) value

/-- Records where a record was fetched from; an endpoint without a key leaves no trace. -/
def stamp (members : List (String × Json)) (source key : String) : List (String × Json) :=
  let members := setField members Schema.sourceField (.string source)
  if key.isEmpty then members else setField members Schema.sourceUrlField (.string key)

end CatalogFeeds.Members
