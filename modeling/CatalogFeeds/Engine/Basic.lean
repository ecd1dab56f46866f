import CatalogFeeds.Endpoint.Basic
import CatalogFeeds.Time.Duration
import CatalogFeeds.Url.Mask
/-!
Engines.

An engine holds what all endpoints of one catalogue share: the name of the source, the base URL,
the headers of every request, how long payloads stay fresh, and the modifiers that path
expressions may name.
-/

namespace CatalogFeeds

/-- What the endpoints of one catalogue share. -/
structure Engine where
  name : String
  baseUrl : Url
  headers : List (String × String) := []
  ttl : Time.Duration
  modifiers : ModifierSet := .builtin

namespace Engine

/-- How long payloads stay fresh unless something else is said: sixty days. -/
def defaultTtl : Time.Duration := ⟨5184000, 0⟩

/-- Makes an engine from its settings; a name and a base URL are needed. -/
def make (name baseUrl : Option String) (headers : List (String × String))
    (ttl : Option Time.Duration) (modifiers : ModifierSet) : EndpointM Engine := do
  let some name := name.filter (!isBlankText ·) | throw (.configuration "name is required")
  let some baseUrl := baseUrl.filter (!isBlankText ·)
    | throw (.configuration (name ++ ": base URL is required"))
  let baseUrl ← (Url.baseOf baseUrl).mapError .url
  return { name, baseUrl, headers, ttl := ttl.getD defaultTtl, modifiers }

/-- Compiles an endpoint of the catalogue. -/
def compile (engine : Engine) (definition : EndpointDefinition) (schema : Schema) :
    EndpointM Endpoint :=
  Endpoint.compile engine.modifiers definition schema

/-- What templates know of the engine. -/
def describe (engine : Engine) : Json :=
  .ofEntries [("name", .string engine.name), ("baseUrl", .string engine.baseUrl.render)]

end Engine

end CatalogFeeds
