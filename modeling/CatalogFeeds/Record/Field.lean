import CatalogFeeds.Text.Ascii
import CatalogFeeds.Text.Blank
/-!
The fields of canonical records.

A mapping table addresses a record by the paths of its fields, such as `title` or `image.url`.
Each schema lists its fields with the kind of value they hold, further names they go by, and
whether only the engine itself may set them. Names are compared without regard to ASCII case.
-/

namespace CatalogFeeds

/-- The two kinds of canonical record. -/
inductive Schema where
  | channel
  | episode
  deriving DecidableEq, Repr

/-- The kind of value a field holds. -/
inductive FieldType where
  | text
  | flag
  | seconds
  | timestamp
  | categories
  | medium
  deriving DecidableEq, Repr

/-- A field of a record: its path, its kind, and the other names it goes by. -/
structure Field where
  name : String
  kind : FieldType
  readOnly : Bool := false
  aliases : List String := []
  deriving DecidableEq, Repr

namespace Schema

/-- The name a schema goes by. -/
def name : Schema → String
  | channel => "Channel"
  | episode => "Episode"

/-- The path of the source a channel was fetched from. -/
def sourceField : String := "_meta.source"

/-- The path of the key of the endpoint a channel was fetched from. -/
def sourceUrlField : String := "_meta.sourceUrl"

/-- The fields of a channel. -/
def channelFields : List Field := [
  { name := "title", kind := .text },
  { name := "description", kind := .text },
  { name := "author", kind := .text },
  { name := "language", kind := .text },
  { name := "link", kind := .text },
  { name := "copyright", kind := .text },
  { name := "explicit", kind := .flag },
  { name := "summary", kind := .text },
  { name := "subtitle", kind := .text },
  { name := "keywords", kind := .text },
  { name := "locked", kind := .flag },
  { name := "category", kind := .categories, aliases := ["categories"] },
  { name := "image.url", kind := .text, aliases := ["imageUrl", "image.href"] },
  { name := "image.title", kind := .text },
  { name := "image.link", kind := .text },
  { name := "_meta.id", kind := .text },
  { name := "_meta.kind", kind := .medium },
  { name := "_meta.frequency", kind := .text },
  { name := "_meta.lastAired", kind := .timestamp },
  { name := sourceField, kind := .text, readOnly := true },
  { name := sourceUrlField, kind := .text, readOnly := true }]

/-- The fields of an episode. -/
def episodeFields : List Field := [
  { name := "id", kind := .text, aliases := ["guid"] },
  { name := "title", kind := .text },
  { name := "description", kind := .text },
  { name := "audioUrl", kind := .text, aliases := ["enclosure.url", "link"] },
  { name := "imageUrl", kind := .text, aliases := ["image.url"] },
  { name := "durationSeconds", kind := .seconds, aliases := ["duration"] },
  { name := "publishedAt", kind := .timestamp, aliases := ["pubDate", "published"] }]

/-- The fields of a schema's records. -/
def fields : Schema → List Field
  | channel => channelFields
  | episode => episodeFields

/-- The field that goes by a name, blanks around which do not count. -/
def lookup? (schema : Schema) (name : String) : Option Field :=
  let name := trimmed name
  schema.fields.find? fun field =>
    Text.equalIgnoringCase field.name name ||
      field.aliases.any (Text.equalIgnoringCase · name)

end Schema

end CatalogFeeds
