import CatalogFeeds.Endpoint.Definition
import CatalogFeeds.Endpoint.Error
import CatalogFeeds.Path.Selector
import CatalogFeeds.Record.Field
/-!
Compiled endpoints.

Compiling checks everything about an endpoint that does not depend on a request or an answer:
that its templates can be read, its method is one, and its mapping sends known fields to paths
that can be read. An endpoint that has been compiled keeps its definition.
-/

namespace CatalogFeeds

open CatalogFeeds.Text

/-- Where the value of a field comes from. -/
inductive Extraction where
  | path (expression : Selector)
  | template (text : String)

/-- A field and where its value comes from. -/
structure FieldRule where
  field : Field
  source : Extraction

/-- A compiled endpoint. -/
structure Endpoint where
  definition : EndpointDefinition
  schema : Schema
  root : Selector
  mappings : List FieldRule
  method : String

namespace Endpoint

/-- What a template in a mapping begins with. -/
def templateMark : String := "@template "

/-- The characters of which methods are made. -/
def isMethodChar (c : Char) : Bool :=
  isAlphanumeric c ||
    ['!', '#', '$', '%', '&', '\'', '*', '+', '-', '.', '^', '_', '`', '|', '~'].contains c

/-- The method of an endpoint. Without a name it depends on whether there is a body. -/
def method? (name : String) (hasBody : Bool) : Option String :=
  let name := trim name.toList
  if name.isEmpty then some (if hasBody then "POST" else "GET")
  else if name.all isMethodChar then some (String.ofList (name.map upper))
  else none

/-- A configuration error about an endpoint. -/
def faulty (definition : EndpointDefinition) (reason : String) : EndpointError :=
  .configuration ("endpoint '" ++ definition.path ++ "': " ++ reason)

/-- Checks that a text can be read as a template. -/
def checkTemplate (text : String) : EndpointM Unit :=
  (Template.validate text).mapError .template

/-- Compiles the entry of a mapping. -/
def compileMapping (modifiers : ModifierSet) (definition : EndpointDefinition)
    (schema : Schema) (target text : String) : EndpointM FieldRule := do
  let some field := schema.lookup? target
    | throw (faulty definition ("unknown " ++ schema.name ++ " field '" ++ target ++ "'"))
  if field.readOnly then
    throw (faulty definition ("field '" ++ field.name ++ "' cannot be mapped"))
  if text.startsWith templateMark then
    let template := (text.drop templateMark.length).toString
    checkTemplate template
    return ⟨field, .template template⟩
  else
    match Selector.parse modifiers text with
    | .ok expression => return ⟨field, .path expression⟩
    | .error error =>
      throw (faulty definition ("mapping for '" ++ target ++ "': " ++ error.message))

/-- Compiles an endpoint. -/
def compile (modifiers : ModifierSet) (definition : EndpointDefinition) (schema : Schema) :
    EndpointM Endpoint := do
  checkTemplate definition.path
  checkTemplate definition.query
  checkTemplate definition.body
  let some method := method? definition.method (!definition.body.isEmpty)
    | throw (faulty definition ("invalid method '" ++ definition.method ++ "'"))
  let root ← (Selector.parse modifiers definition.rootPath).mapError fun error =>
    faulty definition ("root path: " ++ error.message)
  let mappings ← definition.mapping.mapM fun (target, text) =>
    compileMapping modifiers definition schema target text
  return { definition, schema, root, mappings, method }

/-- What an endpoint is known by: method, path and query as they are configured. -/
def signature (endpoint : Endpoint) : String :=
  let definition := endpoint.definition
  (if definition.method.isEmpty then "" else definition.method ++ " ") ++ definition.path ++
    (if definition.query.isEmpty then "" else "?" ++ definition.query)

end Endpoint

end CatalogFeeds
