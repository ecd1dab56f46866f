import CatalogFeeds.Proofs.Json.Parts
import CatalogFeeds.Record.Episode
/-!
What channels and episodes are made of.

The picture and the origin of a channel are records inside it, so a slot of a channel is a part of
the channel itself, of its picture or of its origin. Two parts of an origin have no slot: they are
for the engine alone.

* `Channel.tells_parts`, `Episode.tells_parts` — two records with the same parts are the same.
* `Channel.holds_of_read`, `Episode.holds_of_read` — each slot of a channel or an episode that has
  been read holds what the value at its path is read as.
-/

namespace CatalogFeeds

open Members

/-! ### Categories, pictures and origins -/

/-- The parts of a category. -/
def Category.parts : List (Part Category) := [
  { field := "text", read := Json.asText, view := (·.text),
    put := fun category value => { category with text := value } }]

theorem Category.isMadeOf_parts : Category.shape.IsMadeOf Category.parts where
  plain := rfl
  fields := rfl
  sets := by
    simp only [parts, List.forall_mem_cons]
    refine ⟨?_, by simp⟩
    intro record value
    rfl
  passes := by
    intro field unknown record value
    simp only [shape] at unknown ⊢
    split <;> first | rfl | simp at unknown
  keeps := by simp [parts]

theorem Category.tells_parts : RecordShape.Tells Category.parts := by
  intro category other same
  cases category
  cases other
  simpa [parts] using same

/-- The parts of a picture. -/
def Image.parts : List (Part Image) := [
  { field := "url", read := Json.asText, view := (·.url),
    put := fun image value => { image with url := value } },
  { field := "title", read := Json.asText, view := (·.title),
    put := fun image value => { image with title := value } },
  { field := "link", read := Json.asText, view := (·.link),
    put := fun image value => { image with link := value } }]

theorem Image.isMadeOf_parts : Image.shape.IsMadeOf Image.parts where
  plain := rfl
  fields := rfl
  sets := by
    simp only [Image.parts, List.forall_mem_cons]
    refine ⟨?_, ?_, ?_, by simp⟩ <;> intro record value <;> rfl
  passes := by
    intro field unknown record value
    simp only [Image.shape] at unknown ⊢
    split <;> first | rfl | simp at unknown
  keeps := by simp [Image.parts]

theorem Image.tells_parts : RecordShape.Tells Image.parts := by
  intro image other same
  cases image
  cases other
  simpa [parts] using same

/-- The parts of an origin that mappings may set. -/
def ChannelOrigin.mappedParts : List (Part ChannelOrigin) := [
  { field := "id", read := Json.asText, view := (·.id),
    put := fun origin value => { origin with id := value } },
  { field := "kind", read := (·.asOption (·.asVariant Medium.variants)), view := (·.kind),
    put := fun origin value => { origin with kind := value } },
  { field := "frequency", read := Json.asText, view := (·.frequency),
    put := fun origin value => { origin with frequency := value } },
  { field := "lastAired", read := (·.asOption (·.asInstant)), view := (·.lastAired),
    put := fun origin value => { origin with lastAired := value } }]

/-- The part of an origin that holds the name of a source. -/
def ChannelOrigin.sourcePart : Part ChannelOrigin where
  field := "source"
  read := Json.asText
  view := (·.source)
  put origin value := { origin with source := value }

/-- The part of an origin that holds the key of an endpoint. -/
def ChannelOrigin.sourceUrlPart : Part ChannelOrigin where
  field := "sourceUrl"
  read := Json.asText
  view := (·.sourceUrl)
  put origin value := { origin with sourceUrl := value }

/-- The parts of an origin. -/
def ChannelOrigin.parts : List (Part ChannelOrigin) :=
  mappedParts ++ [sourcePart, sourceUrlPart]

theorem ChannelOrigin.isMadeOf_parts : ChannelOrigin.shape.IsMadeOf ChannelOrigin.parts where
  plain := rfl
  fields := rfl
  sets := by
    simp only [parts, mappedParts, List.cons_append, List.nil_append, List.forall_mem_cons]
    refine ⟨?_, ?_, ?_, ?_, ?_, ?_, by simp⟩ <;> intro record value <;> rfl
  passes := by
    intro field unknown record value
    simp only [shape] at unknown ⊢
    split <;> first | rfl | simp at unknown
  keeps := by simp [parts, mappedParts, sourcePart, sourceUrlPart]

theorem ChannelOrigin.tells_parts : RecordShape.Tells ChannelOrigin.parts := by
  intro origin other same
  cases origin
  cases other
  simpa [parts, mappedParts, sourcePart, sourceUrlPart] using same

/-! ### Channels -/

/-- The parts of a channel that are no records. -/
def Channel.plainParts : List (Part Channel) := [
  { field := "title", read := Json.asText, view := (·.title),
    put := fun channel value => { channel with title := value } },
  { field := "description", read := Json.asText, view := (·.description),
    put := fun channel value => { channel with description := value } },
  { field := "author", read := Json.asText, view := (·.author),
    put := fun channel value => { channel with author := value } },
  { field := "language", read := Json.asText, view := (·.language),
    put := fun channel value => { channel with language := value } },
  { field := "link", read := Json.asText, view := (·.link),
    put := fun channel value => { channel with link := value } },
  { field := "copyright", read := Json.asText, view := (·.copyright),
    put := fun channel value => { channel with copyright := value } },
  { field := "explicit", read := Json.asBool, view := (·.explicit),
    put := fun channel value => { channel with explicit := value } },
  { field := "summary", read := Json.asText, view := (·.summary),
    put := fun channel value => { channel with summary := value } },
  { field := "subtitle", read := Json.asText, view := (·.subtitle),
    put := fun channel value => { channel with subtitle := value } },
  { field := "keywords", read := Json.asText, view := (·.keywords),
    put := fun channel value => { channel with keywords := value } },
  { field := "locked", read := Json.asBool, view := (·.locked),
    put := fun channel value => { channel with locked := value } },
  { field := "category", read := (·.asList Category.shape.read), view := (·.category),
    put := fun channel value => { channel with category := value } }]

/-- The part of a channel that holds its picture. -/
def Channel.imagePart : Part Channel where
  field := "image"
  read := Image.shape.read
  view := (·.image)
  put channel value := { channel with image := value }

/-- The part of a channel that holds its origin. -/
def Channel.originPart : Part Channel where
  field := "_meta"
  read := ChannelOrigin.shape.read
  view := (·.origin)
  put channel value := { channel with origin := value }

/-- The parts of a channel. -/
def Channel.parts : List (Part Channel) :=
  plainParts ++ [imagePart, originPart]

theorem Channel.isMadeOf_parts : Channel.shape.IsMadeOf Channel.parts where
  plain := rfl
  fields := rfl
  sets := by
    simp only [parts, plainParts, List.cons_append, List.nil_append, List.forall_mem_cons]
    refine ⟨?_, ?_, ?_, ?_, ?_, ?_, ?_, ?_, ?_, ?_, ?_, ?_, ?_, ?_, by simp⟩ <;>
      intro record value <;> rfl
  passes := by
    intro field unknown record value
    simp only [shape] at unknown ⊢
    split <;> first | rfl | simp at unknown
  keeps := by simp [parts, plainParts, imagePart, originPart]

theorem Channel.tells_parts : RecordShape.Tells Channel.parts := by
  intro channel other same
  cases channel
  cases other
  simpa [parts, plainParts, imagePart, originPart] using same

/-- The slots of a channel, in the order of the fields that mappings may set. -/
def Channel.slots : List (Slot Channel) :=
  plainParts.map (·.slot) ++ Image.parts.map (·.slotBelow "image" (·.image)) ++
    ChannelOrigin.mappedParts.map (·.slotBelow "_meta" (·.origin))

section Channels

variable {members : List (String × Json)} {channel : Channel}

/-- What a channel holds of its picture is what stands below the picture of its record. -/
theorem Channel.holds_below_image (h : read (.object members) = .ok channel)
    (node : IsNode "image" members) {part : Part Image} (mem : part ∈ Image.parts) :
    (part.slotBelow "image" (·.image)).Holds {} ((Json.object members).at? ["image", part.field])
      channel := by
  have inside : imagePart ∈ parts := by simp [parts]
  have held := Channel.isMadeOf_parts.holds h inside
  have empty : Channel.image {} = Image.shape.blank := rfl
  exact Image.isMadeOf_parts.holds_below empty node held mem

/-- What a channel holds of its origin is what stands below the origin of its record. -/
theorem Channel.holds_below_origin (h : read (.object members) = .ok channel)
    (node : IsNode "_meta" members) {part : Part ChannelOrigin}
    (mem : part ∈ ChannelOrigin.parts) :
    (part.slotBelow "_meta" (·.origin)).Holds {} ((Json.object members).at? ["_meta", part.field])
      channel := by
  have inside : originPart ∈ parts := by simp [parts]
  have held := Channel.isMadeOf_parts.holds h inside
  have empty : Channel.origin {} = ChannelOrigin.shape.blank := rfl
  exact ChannelOrigin.isMadeOf_parts.holds_below empty node held mem

/-- **Each slot of a channel** holds what the value at its path is read as. -/
theorem Channel.holds_of_read (h : read (.object members) = .ok channel)
    (image : IsNode "image" members) (origin : IsNode "_meta" members) {slot : Slot Channel}
    (mem : slot ∈ slots) : slot.Holds {} ((Json.object members).at? slot.path) channel := by
  rw [slots, List.mem_append, List.mem_append] at mem
  rcases mem with (plain | picture) | own
  · obtain ⟨part, inside, rfl⟩ := List.mem_map.mp plain
    have held := Channel.isMadeOf_parts.holds h (List.mem_append_left _ inside)
    rw [← at?_object_single] at held
    exact held
  · obtain ⟨part, inside, rfl⟩ := List.mem_map.mp picture
    exact holds_below_image h image inside
  · obtain ⟨part, inside, rfl⟩ := List.mem_map.mp own
    exact holds_below_origin h origin (List.mem_append_left _ inside)

end Channels

/-- The slots of a channel are for the fields that mappings may set. -/
theorem Channel.path_slots :
    slots.map (·.path) =
      (Schema.channelFields.filter (!·.readOnly)).map (fieldPath ·.name) := by
  decide +kernel

/-! ### Episodes -/

/-- The parts of an episode. -/
def Episode.parts : List (Part Episode) := [
  { field := "id", read := Json.asText, view := (·.id),
    put := fun episode value => { episode with id := value } },
  { field := "title", read := Json.asText, view := (·.title),
    put := fun episode value => { episode with title := value } },
  { field := "description", read := Json.asText, view := (·.description),
    put := fun episode value => { episode with description := value } },
  { field := "audioUrl", read := Json.asText, view := (·.audioUrl),
    put := fun episode value => { episode with audioUrl := value } },
  { field := "imageUrl", read := Json.asText, view := (·.imageUrl),
    put := fun episode value => { episode with imageUrl := value } },
  { field := "durationSeconds", read := (·.asOption (·.asUnsigned)), view := (·.durationSeconds),
    put := fun episode value => { episode with durationSeconds := value } },
  { field := "publishedAt", read := (·.asOption (·.asInstant)), view := (·.publishedAt),
    put := fun episode value => { episode with publishedAt := value } }]

theorem Episode.isMadeOf_parts : Episode.shape.IsMadeOf Episode.parts where
  plain := rfl
  fields := rfl
  sets := by
    simp only [parts, List.forall_mem_cons]
    refine ⟨?_, ?_, ?_, ?_, ?_, ?_, ?_, by simp⟩ <;> intro record value <;> rfl
  passes := by
    intro field unknown record value
    simp only [shape] at unknown ⊢
    split <;> first | rfl | simp at unknown
  keeps := by simp [parts]

theorem Episode.tells_parts : RecordShape.Tells Episode.parts := by
  intro episode other same
  cases episode
  cases other
  simpa [parts] using same

/-- The slots of an episode. -/
def Episode.slots : List (Slot Episode) :=
  parts.map (·.slot)

/-- **Each slot of an episode** holds what the value at its path is read as. -/
theorem Episode.holds_of_read {members : List (String × Json)} {episode : Episode}
    (h : read (.object members) = .ok episode) {slot : Slot Episode} (mem : slot ∈ slots) :
    slot.Holds {} ((Json.object members).at? slot.path) episode := by
  obtain ⟨part, inside, rfl⟩ := List.mem_map.mp mem
  have held := Episode.isMadeOf_parts.holds h inside
  rw [← at?_object_single] at held
  exact held

/-- The slots of an episode are for its fields. -/
theorem Episode.path_slots :
    slots.map (·.path) =
      (Schema.episodeFields.filter (!·.readOnly)).map (fieldPath ·.name) := by
  decide +kernel

end CatalogFeeds
