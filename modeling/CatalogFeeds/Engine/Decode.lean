import CatalogFeeds.Engine.Basic
import CatalogFeeds.Path.Evaluate
import CatalogFeeds.Record.Assembly
import CatalogFeeds.Record.Episode
/-!
Decoding payloads.

The root of an endpoint leads to an array in the payload. Each element becomes a record: the
mapping assembles its fields, the record is stamped with where it comes from and then read. A
single element that does not fit fails the whole payload.
-/

namespace CatalogFeeds.Engine

/-- The variables of the templates of a mapping. -/
def itemVariables (engine : Engine) (item : Json) : List (String × Json) :=
  [("api", engine.describe), ("item", item)]

/-- The value that a mapping finds in an element. -/
def mappedValue (engine : Engine) (item : Json) : Extraction → EndpointM (Option Json)
  | .path expression => (expression.evaluate item).mapError .resolve
  | .template text => do
    let text ← (Template.expand text (engine.itemVariables item)).mapError .template
    return some (.string text)

/-- Sets the field of a mapping, if it has a value. -/
def setMapped (engine : Engine) (item : Json) (record : List (String × Json))
    (mapping : FieldRule) : EndpointM (List (String × Json)) := do
  let value ← engine.mappedValue item mapping.source
  match value.bind mapping.field.kind.coerce with
  | some value => return Members.setField record mapping.field.name value
  | none => return record

/-- The record of an element, before it is stamped. -/
def recordOf (engine : Engine) (endpoint : Endpoint) (item : Json) :
    EndpointM (List (String × Json)) :=
  endpoint.mappings.foldlM (engine.setMapped item) []

/-- The elements of a payload. -/
def elements (endpoint : Endpoint) (payload : ByteArray) : EndpointM (List Json) := do
  let some document := Json.parseBytes? payload | throw (.decode "payload is not valid JSON")
  match ← (endpoint.root.evaluate document).mapError EndpointError.resolve with
  | some (.array items) => return items
  | other =>
    throw (.decode ("expected result to be an array, but was " ++ (other.getD .null).describe ++
      " from root path '" ++ endpoint.root.source ++ "'"))

/-- Reads the record of the element at an index. -/
def decodeElement {α : Type} (engine : Engine) (endpoint : Endpoint)
    (read : Json → Except ShapeError α) (index : Nat) (item : Json) : EndpointM α := do
  let record ← engine.recordOf endpoint item
  let record := Members.stamp record engine.name endpoint.signature
  (read (.object record)).mapError fun error =>
    .decode ("record " ++ toString index ++ " does not fit the " ++ endpoint.schema.name ++
      " schema: " ++ error.message .json)

/-- Reads the records of elements, the first of which has the given index. -/
def decodeFrom {α : Type} (engine : Engine) (endpoint : Endpoint)
    (read : Json → Except ShapeError α) : Nat → List Json → EndpointM (List α)
  | _, [] => .ok []
  | index, item :: items => do
    let record ← engine.decodeElement endpoint read index item
    let records ← decodeFrom engine endpoint read (index + 1) items
    return record :: records

/-- Reads the records of a payload. -/
def decode {α : Type} (engine : Engine) (endpoint : Endpoint)
    (read : Json → Except ShapeError α) (payload : ByteArray) : EndpointM (List α) := do
  engine.decodeFrom endpoint read 0 (← elements endpoint payload)

/-- Reads the channels of a payload. -/
def decodeChannels (engine : Engine) (endpoint : Endpoint) (payload : ByteArray) :
    EndpointM (List Channel) :=
  engine.decode endpoint Channel.read payload

/-- Reads the episodes of a payload. -/
def decodeEpisodes (engine : Engine) (endpoint : Endpoint) (payload : ByteArray) :
    EndpointM (List Episode) :=
  engine.decode endpoint Episode.read payload

end CatalogFeeds.Engine
