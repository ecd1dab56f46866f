import CatalogFeeds.Endpoint.Params
import CatalogFeeds.Engine.Basic
/-!
Requests.

The path of an endpoint goes behind the path of the base URL, and its query behind the query of
the base URL, whose own pairs are templates as well. A string parameter enters a path as a part
of one segment, whatever it holds; dots alone are refused.
-/

namespace CatalogFeeds

open CatalogFeeds.Text

/-- A request to a catalogue. -/
structure Request where
  method : String
  url : Url
  headers : List (String × String)
  body : Option ByteArray

namespace Engine

/-- What templates know of an endpoint. -/
def describeEndpoint (endpoint : Endpoint) : Json :=
  .ofEntries [
    ("method", .string endpoint.method),
    ("path", .string endpoint.definition.path),
    ("query", .string endpoint.definition.query)]

/-- The variables of the templates of a request. -/
def bindings (engine : Engine) (endpoint : Endpoint) (params : Params) : List (String × Json) :=
  Members.insert "api" engine.describe
    (Members.insert "endpoint" (describeEndpoint endpoint) params.bindings)

/-- Expands a template of an endpoint. -/
def expand (text : String) (bindings : List (String × Json)) : EndpointM String :=
  (Template.expand text bindings).mapError .template

/-- A text as a part of one path segment. -/
def segmentEncode (text : String) : String :=
  String.ofList (text.toList.flatMap fun c => if c == ' ' then ['%', '2', '0'] else formChar c)

/-- Sets a parameter for use in a path. -/
def setPathVariable (bindings : List (String × Json)) (entry : String × Json) :
    EndpointM (List (String × Json)) :=
  match entry with
  | (name, .string text) =>
    if text == "." || text == ".." then
      .error (.configuration
        ("parameter '" ++ name ++ "' cannot be used as a path segment: '" ++ text ++ "'"))
    else .ok (Members.insert name (.string (segmentEncode text)) bindings)
  | _ => .ok bindings

/-- The variables of the template of a path. -/
def pathVariables (bindings : List (String × Json)) (params : Params) :
    EndpointM (List (String × Json)) :=
  params.entries.foldlM setPathVariable bindings

/-- Joins two paths with one slash between them. -/
def joinPaths (base path : String) : String :=
  String.ofList (dropEndWhile (· == '/') base.toList) ++ "/" ++
    String.ofList (path.toList.dropWhile (· == '/'))

/-- Puts the path of an endpoint behind that of a URL. -/
def addPath (url : Url) (endpoint : Endpoint) (bindings : List (String × Json))
    (params : Params) : EndpointM Url := do
  let path := endpoint.definition.path
  if path.isEmpty then return url
  let bindings ← pathVariables bindings params
  return url.withPath (← expand (joinPaths url.path.text path) bindings)

/-- Expands the names and values of the pairs of a URL. -/
def expandPairs (url : Url) (bindings : List (String × Json)) : EndpointM Url := do
  let pairs := url.queryPairs
  if pairs.isEmpty then return url
  let pairs ← pairs.mapM fun (name, value) => do
    return (← expand name bindings, ← expand value bindings)
  return url.withPairs pairs

/-- Puts the query of an endpoint behind that of a URL. -/
def addQuery (url : Url) (endpoint : Endpoint) (bindings : List (String × Json)) :
    EndpointM Url := do
  let query := endpoint.definition.query
  if query.isEmpty then return url
  let pairs := formPairs (← expand query bindings)
  return if pairs.isEmpty then url else url.addPairs pairs

/-- The URL of a request. -/
def urlFor (engine : Engine) (endpoint : Endpoint) (params : Params) : EndpointM Url := do
  let bindings := engine.bindings endpoint params
  let url ← addPath engine.baseUrl endpoint bindings params
  let url ← expandPairs url bindings
  addQuery url endpoint bindings

/-- The request to a URL. -/
def requestFor (engine : Engine) (endpoint : Endpoint) (params : Params) (url : Url) :
    EndpointM Request := do
  let template := endpoint.definition.body
  let body ← if template.isEmpty then pure none
    else (expand template (engine.bindings endpoint params)).map (some ·.toUTF8)
  return { method := endpoint.method, url, headers := engine.headers, body }

end Engine

end CatalogFeeds
