import CatalogFeeds.Engine.Run
import CatalogFeeds.Record.ChannelBatch
import CatalogFeeds.Settings.Basic
import CatalogFeeds.Source.Untold
/-!
Sources.

A source is an engine with compiled endpoints: some that list channels, and perhaps one that
lists the episodes of a channel and one that searches titles. A listing that fails does not keep
the others from being run.
-/

namespace CatalogFeeds

open CatalogFeeds.Time

/-- A compiled listing of channels. -/
structure Listing where
  name : String
  entryName : String
  endpoint : Endpoint

/-- A catalogue with its compiled endpoints. -/
structure Source where
  engine : Engine
  kind : SourcePreset
  listings : List Listing
  episodeListing : Option Endpoint
  titleSearch : Option Endpoint

/-- What the listings of a source have given: lists of channels, and errors. -/
structure Collected where
  lists : List ChannelBatch := []
  errors : List EndpointError := []

namespace Collected

/-- Whether there is nothing but errors. -/
def gaveNothing (collected : Collected) : Bool :=
  collected.lists.isEmpty && !collected.errors.isEmpty

/-- How many channels there are in all lists. -/
def total (collected : Collected) : Nat :=
  collected.lists.foldl (fun count list => count + list.channels.length) 0

end Collected

namespace Source

/-- The name of a source. -/
def name (source : Source) : String :=
  source.engine.name

/-! ### Making sources -/

/-- Adds the header that a token is sent in. -/
def withToken (headers : List (String × String)) (token : Option String) :
    List (String × String) :=
  headers ++ token.elim [] fun token => [("authorization", token)]

/-- The settings of a source with its preset. -/
def effective (settings : SourceSettings) : SourceSettings :=
  match settings.kind with
  | .untold => Untold.complete settings
  | .generic => settings

/-- Compiles a listing. -/
def compileListing (engine : Engine) (listing : ChannelListing) : EndpointM Listing := do
  let endpoint ← engine.compile listing.endpoint .channel
  return { name := listing.name, entryName := listing.key, endpoint }

/-- Makes a source from its settings; payloads stay fresh for `ttl` unless they say otherwise. -/
def make (settings : SourceSettings) (ttl : Duration) (modifiers : ModifierSet) :
    EndpointM Source := do
  let settings := effective settings
  let some baseUrl := settings.baseUrl
    | throw (.configuration ("source '" ++ settings.name ++ "' needs a base_url"))
  let engine ← Engine.make (some settings.name) (some baseUrl)
    (withToken settings.headers settings.token) (some (settings.cacheTtl.getD ttl)) modifiers
  let listings ← settings.channelListings.mapM (compileListing engine)
  let episodeListing ← settings.episodeListing.mapM (engine.compile · .episode)
  let titleSearch ← settings.titleSearch.mapM (engine.compile · .channel)
  return { engine, kind := settings.kind, listings, episodeListing, titleSearch }

/-- Makes every source that is not switched off. -/
def makeAll (settings : Settings) (modifiers : ModifierSet) : EndpointM (List Source) :=
  settings.activeSources.mapM (make · settings.cache.ttl modifiers)

/-! ### Asking sources -/

/-- The key that listings of episodes are cached under begins with this. -/
def episodesKey : String := "episodes-"

/-- The key that searches are cached under begins with this. -/
def searchKey : String := "search-"

/-- Runs an endpoint that gives channels. -/
def channelsFrom (source : Source) (around : Surroundings) (endpoint : Endpoint) (params : Params)
    (start : String) : RunM ChannelBatch := do
  let run ← source.engine.run around endpoint Channel.read params start
  return ⟨run.records, run.raw⟩

/-- Runs listings; one that fails leaves its error. -/
def collectFrom (source : Source) (around : Surroundings) : List Listing → StateM Session Collected
  | [] => return {}
  | listing :: rest => do
    let result ← source.channelsFrom around listing.endpoint {} listing.entryName
    let collected ← collectFrom source around rest
    match result with
    | .ok list => return { collected with lists := list :: collected.lists }
    | .error error => return { collected with errors := error :: collected.errors }

/-- Runs every listing of a source. -/
def collect (source : Source) (around : Surroundings) : StateM Session Collected :=
  source.collectFrom around source.listings

/-- Lists the episodes of a channel. -/
def episodesOf (source : Source) (around : Surroundings) (id : String) :
    RunM (Harvest Episode) := do
  let some endpoint := source.episodeListing | throw (.missingEndpoint "ListEpisodes")
  source.engine.run around endpoint Episode.read ⟨[("podID", .string id)]⟩ episodesKey

/-- Searches for titles. -/
def titlesMatching (source : Source) (around : Surroundings) (text : String) :
    RunM ChannelBatch := do
  let some endpoint := source.titleSearch | throw (.missingEndpoint "SearchTitles")
  source.channelsFrom around endpoint ⟨[("query", .string text)]⟩ searchKey

end Source

end CatalogFeeds
