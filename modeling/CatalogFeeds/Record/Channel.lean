import CatalogFeeds.Json.Shape
import CatalogFeeds.Record.Coerce
/-!
Channels.

A channel is a podcast or a book in canonical form. `Channel.read` takes it from JSON, where
every field may be missing and then has its zero value, and `Channel.toJson` writes all fields.
-/

namespace CatalogFeeds

/-- A category of a channel. -/
structure Category where
  text : String
  deriving DecidableEq, Repr

/-- The picture of a channel. -/
structure Image where
  url : String := ""
  title : String := ""
  link : String := ""
  deriving DecidableEq, Repr

/-- Where a channel comes from, and what its catalogue says about it. -/
structure ChannelOrigin where
  id : String := ""
  kind : Option Medium := none
  frequency : String := ""
  lastAired : Option Time.Instant := none
  source : String := ""
  sourceUrl : String := ""
  deriving DecidableEq, Repr

/-- A channel. -/
structure Channel where
  title : String := ""
  description : String := ""
  author : String := ""
  language : String := ""
  link : String := ""
  copyright : String := ""
  explicit : Bool := false
  summary : String := ""
  subtitle : String := ""
  keywords : String := ""
  locked : Bool := false
  category : List Category := []
  image : Image := {}
  origin : ChannelOrigin := {}
  deriving DecidableEq, Repr

/-! ### Reading -/

/-- The kinds of channel by their names. -/
def Medium.variants : List (String × Medium) :=
  [(podcast.name, podcast), (book.name, book)]

/-- How a category is read. -/
def Category.shape : RecordShape Category where
  name := "Category"
  fields := ["text"]
  required := ["text"]
  blank := ⟨""⟩
  set record field value := match field with
    | "text" => return { record with text := ← value.asText }
    | _ => return record

/-- How a picture is read. -/
def Image.shape : RecordShape Image where
  name := "Image"
  fields := ["url", "title", "link"]
  blank := {}
  set record field value := match field with
    | "url" => return { record with url := ← value.asText }
    | "title" => return { record with title := ← value.asText }
    | "link" => return { record with link := ← value.asText }
    | _ => return record

/-- How the origin of a channel is read. -/
def ChannelOrigin.shape : RecordShape ChannelOrigin where
  name := "ChannelMeta"
  fields := ["id", "kind", "frequency", "lastAired", "source", "sourceUrl"]
  blank := {}
  set record field value := match field with
    | "id" => return { record with id := ← value.asText }
    | "kind" => return { record with kind := ← value.asOption (·.asVariant Medium.variants) }
    | "frequency" => return { record with frequency := ← value.asText }
    | "lastAired" => return { record with lastAired := ← value.asOption (·.asInstant) }
    | "source" => return { record with source := ← value.asText }
    | "sourceUrl" => return { record with sourceUrl := ← value.asText }
    | _ => return record

/-- How a channel is read. -/
def Channel.shape : RecordShape Channel where
  name := "Channel"
  fields := ["title", "description", "author", "language", "link", "copyright", "explicit",
    "summary", "subtitle", "keywords", "locked", "category", "image", "_meta"]
  blank := {}
  set record field value := match field with
    | "title" => return { record with title := ← value.asText }
    | "description" => return { record with description := ← value.asText }
    | "author" => return { record with author := ← value.asText }
    | "language" => return { record with language := ← value.asText }
    | "link" => return { record with link := ← value.asText }
    | "copyright" => return { record with copyright := ← value.asText }
    | "explicit" => return { record with explicit := ← value.asBool }
    | "summary" => return { record with summary := ← value.asText }
    | "subtitle" => return { record with subtitle := ← value.asText }
    | "keywords" => return { record with keywords := ← value.asText }
    | "locked" => return { record with locked := ← value.asBool }
    | "category" => return { record with category := ← value.asList Category.shape.read }
    | "image" => return { record with image := ← Image.shape.read value }
    | "_meta" => return { record with origin := ← ChannelOrigin.shape.read value }
    | _ => return record

/-- Reads a channel. -/
def Channel.read (value : Json) : Except ShapeError Channel :=
  Channel.shape.read value

/-! ### Writing -/

/-- An instant, or null. -/
def Json.ofInstant? (instant : Option Time.Instant) : Json :=
  .ofString? (instant.map (·.text))

/-- The category as an object. -/
def Category.toJson (category : Category) : Json :=
  .object [("text", .string category.text)]

/-- The picture as an object. -/
def Image.toJson (image : Image) : Json :=
  .object [
    ("url", .string image.url),
    ("title", .string image.title),
    ("link", .string image.link)]

/-- The origin as an object. -/
def ChannelOrigin.toJson (origin : ChannelOrigin) : Json :=
  .object [
    ("id", .string origin.id),
    ("kind", .ofString? (origin.kind.map (·.name))),
    ("frequency", .string origin.frequency),
    ("lastAired", .ofInstant? origin.lastAired),
    ("source", .string origin.source),
    ("sourceUrl", .string origin.sourceUrl)]

/-- The channel as an object. -/
def Channel.toJson (channel : Channel) : Json :=
  .object [
    ("title", .string channel.title),
    ("description", .string channel.description),
    ("author", .string channel.author),
    ("language", .string channel.language),
    ("link", .string channel.link),
    ("copyright", .string channel.copyright),
    ("explicit", .bool channel.explicit),
    ("summary", .string channel.summary),
    ("subtitle", .string channel.subtitle),
    ("keywords", .string channel.keywords),
    ("locked", .bool channel.locked),
    ("category", .array (channel.category.map (·.toJson))),
    ("image", channel.image.toJson),
    ("_meta", channel.origin.toJson)]

end CatalogFeeds
