import CatalogFeeds.Record.Channel
/-!
Episodes.

An episode of a channel in canonical form, read from JSON and written to it as channels are.
-/

namespace CatalogFeeds

/-- An episode. -/
structure Episode where
  id : String := ""
  title : String := ""
  description : String := ""
  audioUrl : String := ""
  imageUrl : String := ""
  durationSeconds : Option Nat := none
  publishedAt : Option Time.Instant := none
  deriving DecidableEq, Repr

/-- How an episode is read. -/
def Episode.shape : RecordShape Episode where
  name := "Episode"
  fields := ["id", "title", "description", "audioUrl", "imageUrl", "durationSeconds",
    "publishedAt"]
  blank := {}
  set record field value := match field with
    | "id" => return { record with id := ← value.asText }
    | "title" => return { record with title := ← value.asText }
    | "description" => return { record with description := ← value.asText }
    | "audioUrl" => return { record with audioUrl := ← value.asText }
    | "imageUrl" => return { record with imageUrl := ← value.asText }
    | "durationSeconds" => return { record with durationSeconds := ← value.asOption (·.asUnsigned) }
    | "publishedAt" => return { record with publishedAt := ← value.asOption (·.asInstant) }
    | _ => return record

/-- Reads an episode. -/
def Episode.read (value : Json) : Except ShapeError Episode :=
  Episode.shape.read value

/-- The episode as an object. -/
def Episode.toJson (episode : Episode) : Json :=
  .object [
    ("id", .string episode.id),
    ("title", .string episode.title),
    ("description", .string episode.description),
    ("audioUrl", .string episode.audioUrl),
    ("imageUrl", .string episode.imageUrl),
    ("durationSeconds", episode.durationSeconds.elim .null .ofNat),
    ("publishedAt", .ofInstant? episode.publishedAt)]

end CatalogFeeds
