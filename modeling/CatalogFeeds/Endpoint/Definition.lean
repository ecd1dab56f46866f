import CatalogFeeds.Json.Shape
/-!
Endpoints as they are configured.

All parts of an endpoint are texts; path, query and body may be templates. The mapping says for
each field of a record where its value comes from.
-/

namespace CatalogFeeds

/-- An endpoint as it is configured. The mapping is in the order of its keys. -/
structure EndpointDefinition where
  path : String := ""
  query : String := ""
  method : String := ""
  body : String := ""
  rootPath : String := ""
  mapping : List (String × String) := []
  deriving DecidableEq, Repr

namespace EndpointDefinition

/-- How an endpoint is read. -/
def shape : RecordShape EndpointDefinition where
  name := "EndpointConfig"
  fields := ["path", "query", "method", "body", "root_path", "mapping"]
  aliases := [("root", "root_path")]
  blank := {}
  set record field value := match field with
    | "path" => return { record with path := ← value.asText }
    | "query" => return { record with query := ← value.asText }
    | "method" => return { record with method := ← value.asText }
    | "body" => return { record with body := ← value.asText }
    | "root_path" => return { record with rootPath := ← value.asText }
    | "mapping" => return { record with mapping := ← value.asTexts }
    | _ => return record

/-- Reads an endpoint. -/
def read (value : Json) : Except ShapeError EndpointDefinition :=
  shape.read value

/-- An object with texts. -/
def textsToJson (entries : List (String × String)) : Json :=
  .ofEntries (entries.map fun (key, text) => (key, .string text))

/-- The entries of the object that describes an endpoint. -/
def entries (endpoint : EndpointDefinition) : List (String × Json) := [
  ("path", .string endpoint.path),
  ("query", .string endpoint.query),
  ("method", .string endpoint.method),
  ("body", .string endpoint.body),
  ("root_path", .string endpoint.rootPath),
  ("mapping", textsToJson endpoint.mapping)]

/-- The endpoint as an object. -/
def toJson (endpoint : EndpointDefinition) : Json :=
  .ofEntries endpoint.entries

end EndpointDefinition

end CatalogFeeds
