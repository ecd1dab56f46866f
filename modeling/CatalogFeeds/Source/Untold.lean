import CatalogFeeds.Members
import CatalogFeeds.Settings.Source
/-!
The preset of the Untold catalogue.

No endpoint of Untold lists all titles, so the channels are those of two listings. The followed
titles stand one level deeper, and their mapping is that of the others behind a longer path.
What a source configures itself wins over the preset.
-/

namespace CatalogFeeds.Untold

/-- The base URL of the catalogue. -/
def baseUrl : String := "https://api.fole.app.iterate.no"

/-- The headers that the catalogue wants, in the order of their names. -/
def headers : List (String × String) := [
  ("accept", "*/*"),
  ("accept-language", "nb-NO,nb;q=0.9"),
  ("user-agent", "Untold/2 CFNetwork/1496.0.7 Darwin/23.5.0"),
  ("x-app-os", "ios"),
  ("x-app-version", "1.8.2")]

/-- Where the fields of a channel are. -/
def titleFields : List (String × String) :=
  Members.ofList [
    ("title", "name"),
    ("description", "description"),
    ("image.url", "cover.lg"),
    ("author", "producer"),
    ("_meta.frequency", "frequency"),
    ("_meta.lastAired", "lastEpisodeDate"),
    ("_meta.id", "id"),
    ("locked", "@literal:\"yes\"")]

/-- The mapping with every path moved behind another. -/
def shiftedRules (mapping : List (String × String)) (start : String) :
    List (String × String) :=
  mapping.map fun (field, text) =>
    (field, if text.startsWith "@" then text else start ++ text)

/-- The endpoints that list channels. -/
def channelListings : List ChannelListing := [
  { name := "originals"
    endpoint := { path := "/api/v1/podcasts/original", mapping := titleFields } },
  { name := "followed"
    endpoint := {
      path := "/api/v1/podcasts/followed"
      mapping := shiftedRules titleFields "podcast." } }]

/-- The endpoint that lists the episodes of a channel. -/
def episodeListing : EndpointDefinition where
  path := "/api/v1/podcasts/\x7b\x7b podID \x7d\x7d/episodes"
  mapping := Members.ofList [
    ("id", "id"),
    ("title", "title"),
    ("description", "description"),
    ("audioUrl", "soundUrl"),
    ("imageUrl", "cover.lg"),
    ("durationSeconds", "duration"),
    ("publishedAt", "published")]

/-- The endpoint that searches titles. -/
def titleSearch : EndpointDefinition where
  path := "/api/v1/podcasts/search"
  query := "term=\x7b\x7b query \x7d\x7d"
  mapping := titleFields

/-- Puts a listing in the place of the one of its name, or behind the others. -/
def setListing : List ChannelListing → ChannelListing → List ChannelListing
  | [], listing => [listing]
  | first :: rest, listing =>
    if first.name == listing.name then listing :: rest else first :: setListing rest listing

/-- Fills in what the settings of a source leave out. -/
def complete (settings : SourceSettings) : SourceSettings :=
  { settings with
    baseUrl := some (settings.baseUrl.getD baseUrl)
    headers := Members.insertAll settings.headers headers
    channelListings := settings.channelListings.foldl setListing channelListings
    episodeListing := some (settings.episodeListing.getD episodeListing)
    titleSearch := some (settings.titleSearch.getD titleSearch) }

end CatalogFeeds.Untold
