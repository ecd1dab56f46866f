import CatalogFeeds.Settings.Source
import CatalogFeeds.Cache.Segment
/-!
Settings of the program.

Settings come in sections for the cache, requests and feeds, and a list of sources. Every
setting but the name of a source has a default. Settings are valid when each source can be told
from the others, also by the directory of the cache that its name leads to, and has a base URL
unless its kind brings one.
-/

namespace CatalogFeeds

open CatalogFeeds.Time

/-- Where payloads are cached, and how long they stay fresh. -/
structure CacheSettings where
  directory : String := "./data/cache"
  ttl : Duration := ⟨5184000, 0⟩
  deriving DecidableEq, Repr

/-- How requests are made. -/
structure HttpSettings where
  connectTimeout : Duration := ⟨10, 0⟩
  requestTimeout : Option Duration := some ⟨60, 0⟩
  userAgent : String := "audio-mirror/0.1.0"
  deriving DecidableEq, Repr

/-- What feeds say where channels do not, and where they are written. -/
structure FeedSettings where
  language : String := "en"
  ownerName : String := "audio-mirror"
  outputDirectory : String := "./feeds"
  deriving DecidableEq, Repr

/-- The settings of the program. -/
structure Settings where
  cache : CacheSettings := {}
  http : HttpSettings := {}
  feeds : FeedSettings := {}
  sources : List SourceSettings := []
  deriving DecidableEq, Repr

/-! ### Reading -/

/-- How the settings of the cache are read. -/
def CacheSettings.shape : RecordShape CacheSettings where
  name := "CacheConfig"
  fields := ["directory", "ttl"]
  blank := {}
  set record field value := match field with
    | "directory" => return { record with directory := ← value.asPath }
    | "ttl" => return { record with ttl := ← value.asDuration }
    | _ => return record

/-- How the settings of requests are read. -/
def HttpSettings.shape : RecordShape HttpSettings where
  name := "HttpConfig"
  fields := ["connect_timeout", "request_timeout", "user_agent"]
  blank := {}
  set record field value := match field with
    | "connect_timeout" => return { record with connectTimeout := ← value.asDuration }
    | "request_timeout" =>
      return { record with requestTimeout := ← value.asOption (·.asDuration) }
    | "user_agent" => return { record with userAgent := ← value.asText }
    | _ => return record

/-- How the settings of feeds are read. -/
def FeedSettings.shape : RecordShape FeedSettings where
  name := "RssConfig"
  fields := ["language", "owner_name", "output_directory"]
  blank := {}
  set record field value := match field with
    | "language" => return { record with language := ← value.asText }
    | "owner_name" => return { record with ownerName := ← value.asText }
    | "output_directory" => return { record with outputDirectory := ← value.asPath }
    | _ => return record

/-- How the settings of the program are read. -/
def Settings.shape : RecordShape Settings where
  name := "Config"
  fields := ["cache", "http", "rss", "sources"]
  blank := {}
  set record field value := match field with
    | "cache" => return { record with cache := ← CacheSettings.shape.read value }
    | "http" => return { record with http := ← HttpSettings.shape.read value }
    | "rss" => return { record with feeds := ← FeedSettings.shape.read value }
    | "sources" => return { record with sources := ← value.asList SourceSettings.read }
    | _ => return record

/-! ### Writing -/

/-- The settings of the cache as an object. -/
def CacheSettings.toJson (settings : CacheSettings) : Json :=
  .ofEntries [("directory", .string settings.directory), ("ttl", .string settings.ttl.text)]

/-- The settings of requests as an object. -/
def HttpSettings.toJson (settings : HttpSettings) : Json :=
  .ofEntries ([
      ("connect_timeout", .string settings.connectTimeout.text),
      ("user_agent", .string settings.userAgent)] ++
    SourceSettings.entry? "request_timeout" (.string ·.text) settings.requestTimeout)

/-- The settings of feeds as an object. -/
def FeedSettings.toJson (settings : FeedSettings) : Json :=
  .ofEntries [
    ("language", .string settings.language),
    ("owner_name", .string settings.ownerName),
    ("output_directory", .string settings.outputDirectory)]

/-! ### Validity -/

/-- Why settings are not valid. -/
inductive SettingsError where
  | namelessSource
  | duplicateSource (name : String)
  | sharedDirectory (first second directory : String)
  | missingBaseUrl (source : String)
  | duplicateListing (source name : String)
  deriving DecidableEq, Repr

/-- The sentence that reports an error. -/
def SettingsError.message : SettingsError → String
  | namelessSource => "every source needs a name"
  | duplicateSource name => "duplicate source name '" ++ name ++ "'"
  | sharedDirectory first second directory =>
    "sources '" ++ first ++ "' and '" ++ second ++ "' would share the cache directory '" ++
      directory ++ "'"
  | missingBaseUrl source => "source '" ++ source ++ "' needs a base_url"
  | duplicateListing source name =>
    "source '" ++ source ++ "' has more than one channel endpoint named '" ++ name ++ "'"

/-- The first item of a list that occurs before. -/
def firstRepeated? (seen : List String) : List String → Option String
  | [] => none
  | item :: rest => if seen.contains item then some item else firstRepeated? (item :: seen) rest

namespace SourceSettings

/-- The directory of the cache that belongs to a source. -/
def cacheDirectory (settings : SourceSettings) : String :=
  Segment.safeName settings.name false

/-- Checks a source against those before it. -/
def check (before : List SourceSettings) (settings : SourceSettings) :
    Except SettingsError Unit := do
  if isBlankText settings.name then throw .namelessSource
  if before.any (·.name == settings.name) then throw (.duplicateSource settings.name)
  let directory := settings.cacheDirectory
  if let some other := before.find? (·.cacheDirectory == directory) then
    throw (.sharedDirectory other.name settings.name directory)
  if settings.kind == .generic && settings.baseUrl.isNone then
    throw (.missingBaseUrl settings.name)
  if let some name := firstRepeated? [] (settings.channelListings.map (·.name)) then
    throw (.duplicateListing settings.name name)

end SourceSettings

namespace Settings

/-- Reads settings. -/
def read (value : Json) : Except ShapeError Settings :=
  shape.read value

/-- The settings as an object. -/
def toJson (settings : Settings) : Json :=
  .ofEntries [
    ("cache", settings.cache.toJson),
    ("http", settings.http.toJson),
    ("rss", settings.feeds.toJson),
    ("sources", .array (settings.sources.map (·.toJson)))]

/-- Checks sources, `before` being those in front of them. -/
def checkSources (before : List SourceSettings) :
    List SourceSettings → Except SettingsError Unit
  | [] => .ok ()
  | source :: rest => do
    source.check before
    checkSources (before ++ [source]) rest

/-- Checks that settings are valid. -/
def validate (settings : Settings) : Except SettingsError Unit :=
  checkSources [] settings.sources

/-- The sources that are not switched off. -/
def activeSources (settings : Settings) : List SourceSettings :=
  settings.sources.filter (·.enabled)

/-- The source of a name. -/
def source? (settings : Settings) (name : String) : Option SourceSettings :=
  settings.sources.find? (·.name == name)

end Settings

end CatalogFeeds
