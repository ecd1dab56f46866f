import CatalogFeeds.Endpoint.Definition
/-!
Settings of a source.

A source has a name, perhaps a base URL, headers and a token, and the endpoints that list its
channels, the episodes of a channel and the titles for a search. Settings that are not given are
left out when they are written.
-/

namespace CatalogFeeds

open CatalogFeeds.Time

/-- What a source starts from: nothing, or the preset of the Untold catalogue. -/
inductive SourcePreset where
  | generic
  | untold
  deriving DecidableEq, Repr

namespace SourcePreset

/-- The name of a kind in settings. -/
def name : SourcePreset → String
  | generic => "generic"
  | untold => "untold"

/-- The kinds by their names. -/
def variants : List (String × SourcePreset) :=
  [(generic.name, generic), (untold.name, untold)]

end SourcePreset

/-- A named endpoint that lists channels, and perhaps the key its payload is cached under. -/
structure ChannelListing where
  name : String
  entryName : Option String := none
  endpoint : EndpointDefinition := {}
  deriving DecidableEq, Repr

/-- The settings of a source. The headers are in the order of their names. -/
structure SourceSettings where
  name : String
  kind : SourcePreset := .generic
  enabled : Bool := true
  baseUrl : Option String := none
  headers : List (String × String) := []
  token : Option String := none
  cacheTtl : Option Duration := none
  channelListings : List ChannelListing := []
  episodeListing : Option EndpointDefinition := none
  titleSearch : Option EndpointDefinition := none
  deriving DecidableEq, Repr

/-! ### Reading -/

namespace ChannelListing

/-- The key that the payload of a listing is cached under. -/
def key (listing : ChannelListing) : String :=
  listing.entryName.getD listing.name

/-- How the name and the key of a listing are read. -/
def shape : RecordShape ChannelListing where
  name := "ChannelEndpointConfig"
  fields := ["name", "cache_key"]
  required := ["name"]
  blank := { name := "" }
  set record field value := match field with
    | "name" => return { record with name := ← value.asText }
    | "cache_key" => return { record with entryName := ← value.asOption (·.asText) }
    | _ => return record

/-- Reads a listing, whose endpoint is spread among the members of the same object. -/
def read : Json → Except ShapeError ChannelListing
  | .object members => do
    let listing ← shape.readMembers members
    let endpoint ← EndpointDefinition.shape.readMembers members
    return { listing with endpoint }
  | value => .error (.wrongType value ("struct " ++ shape.name))

/-- The listing as an object. -/
def toJson (listing : ChannelListing) : Json :=
  .ofEntries ([("name", .string listing.name)] ++
    listing.entryName.elim [] (fun key => [("cache_key", .string key)]) ++
    listing.endpoint.entries)

end ChannelListing

namespace SourceSettings

/-- How the settings of a source are read. -/
def shape : RecordShape SourceSettings where
  name := "SourceConfig"
  fields := ["name", "kind", "enabled", "base_url", "headers", "token", "cache_ttl",
    "channel_endpoints", "episodes_endpoint", "search_endpoint"]
  required := ["name"]
  blank := { name := "" }
  set record field value := match field with
    | "name" => return { record with name := ← value.asText }
    | "kind" => return { record with kind := ← value.asVariant SourcePreset.variants }
    | "enabled" => return { record with enabled := ← value.asBool }
    | "base_url" => return { record with baseUrl := ← value.asOption (·.asText) }
    | "headers" => return { record with headers := ← value.asTexts }
    | "token" => return { record with token := ← value.asOption (·.asText) }
    | "cache_ttl" => return { record with cacheTtl := ← value.asOption (·.asDuration) }
    | "channel_endpoints" =>
      return { record with channelListings := ← value.asList ChannelListing.read }
    | "episodes_endpoint" =>
      return { record with episodeListing := ← value.asOption EndpointDefinition.read }
    | "search_endpoint" =>
      return { record with titleSearch := ← value.asOption EndpointDefinition.read }
    | _ => return record

/-- Reads the settings of a source. -/
def read (value : Json) : Except ShapeError SourceSettings :=
  shape.read value

/-! ### Writing -/

/-- An entry for a setting that is given. -/
def entry? {α : Type} (key : String) (toJson : α → Json) (value : Option α) :
    List (String × Json) :=
  value.elim [] fun value => [(key, toJson value)]

/-- An entry for a list that is not empty. -/
def listEntry? {α : Type} (key : String) (toJson : List α → Json) (values : List α) :
    List (String × Json) :=
  if values.isEmpty then [] else [(key, toJson values)]

/-- The settings as an object. -/
def toJson (settings : SourceSettings) : Json :=
  .ofEntries ([
      ("name", .string settings.name),
      ("kind", .string settings.kind.name),
      ("enabled", .bool settings.enabled)] ++
    entry? "base_url" .string settings.baseUrl ++
    listEntry? "headers" EndpointDefinition.textsToJson settings.headers ++
    entry? "token" .string settings.token ++
    entry? "cache_ttl" (.string ·.text) settings.cacheTtl ++
    listEntry? "channel_endpoints" (.array <| ·.map (·.toJson)) settings.channelListings ++
    entry? "episodes_endpoint" (·.toJson) settings.episodeListing ++
    entry? "search_endpoint" (·.toJson) settings.titleSearch)

end SourceSettings

end CatalogFeeds
