import CatalogFeeds.Command.Run
import CatalogFeeds.Proofs.Json.Written
import CatalogFeeds.Proofs.Record.Parts
import CatalogFeeds.Proofs.Record.Timestamps
/-!
Channels and episodes that are read back.

A record is written with its fields in the order in which they are declared, and a text that is
read gives them in the order of their keys. `Carries` therefore asks of a value that it is read as
a record in both orders. It goes from the fields of a record to the record, and so from texts,
flags and dates to pictures and origins and from there to channels.

* `RecordShape.IsMadeOf.carries` — an object carries a record if its members carry the fields.
* `Channel.carries_toJson`, `Episode.carries_toJson` — channels and episodes.
* `Carries.readsBack` — a value that carries a record is read back from each of its texts.
* `canonical_records_read_back` — so are channels, episodes and the lists of them that are printed.
-/

namespace CatalogFeeds

open Members

variable {α β : Type}

namespace Json

/-- A value that is read as a record, also with its members in order, and of which a text loses
nothing but their order. -/
structure Carries (depth : Nat) (read : Json → Except ShapeError α) (value : Json) (record : α) :
    Prop where
  lossless : IsLossless depth value
  plain : read value = .ok record
  settled : read value.inOrder = .ok record

/-- A value that is read as a record, and so is each of its texts: those that are written of it,
and any other that has the same members. -/
structure ReadsBack (read : Json → Except ShapeError α) (value : Json) (record : α) : Prop where
  plain : read value = .ok record
  line : (parse? value.render).map read = some (.ok record)
  lines : (parse? value.pretty).map read = some (.ok record)
  texts : ∀ text : String, IsText deepest (.value value.inOrder) text.toList →
    (parse? text).map read = some (.ok record)

section Values

variable {depth : Nat} {read : Json → Except ShapeError α} {value : Json} {record : α}

/-- **What a value carries is read back** from each of its texts. -/
theorem Carries.readsBack (carries : Carries deepest read value record) :
    ReadsBack read value record := by
  have texts : ∀ text : String, parse? text = some value.inOrder →
      (parse? text).map read = some (.ok record) := by
    intro text parsed
    rw [parsed, Option.map_some, carries.settled]
  obtain ⟨line, lines⟩ := parse?_of_isLossless carries.lossless
  exact ⟨carries.plain, texts _ line, texts _ lines, fun text own =>
    texts text (parse?_of_isText own)⟩

theorem carries_text (s : String) : Carries depth (·.asText) (string s) s where
  lossless := .string s
  plain := rfl
  settled := by rw [inOrder_string]; rfl

theorem carries_bool (b : Bool) : Carries depth (·.asBool) (bool b) b where
  lossless := .bool b
  plain := rfl
  settled := by rw [inOrder_bool]; rfl

theorem carries_null : Carries depth (·.asOption read) null none where
  lossless := .null
  plain := rfl
  settled := by rw [inOrder_null]; rfl

/-- A text that is read as a record is so in the place of an optional one. -/
theorem carries_string {s : String} (own : read (string s) = .ok record) :
    Carries depth (·.asOption read) (string s) (some record) := by
  have plain : (string s).asOption read = .ok (some record) := by
    rw [asOption, own]
    · rfl
    · simp
  refine ⟨.string s, plain, ?_⟩
  rw [inOrder_string]
  exact plain

theorem carries_unsigned {n : Nat} (small : n < Number.wordLimit) :
    Carries depth (·.asOption (·.asUnsigned)) (ofNat n) (some n) := by
  have fits : Fits n := by
    unfold Fits
    omega
  have positive : ¬ (n : Int) < 0 := by omega
  have plain : (ofNat n).asOption (·.asUnsigned) = .ok (some n) := by
    rw [ofNat, asOption, asUnsigned, if_neg positive]
    · rfl
    · simp
  refine ⟨.whole fits, plain, ?_⟩
  rw [ofNat, inOrder_number]
  exact plain

theorem carries_medium (kind : Option Medium) :
    Carries depth (·.asOption (·.asVariant Medium.variants)) (ofString? (kind.map (·.name)))
      kind := by
  cases kind with
  | none => exact carries_null
  | some kind =>
    apply carries_string
    cases kind <;> rfl

theorem carries_instant {instant : Option Time.Instant}
    (dated : ∀ t, instant = some t → t.IsDated) :
    Carries depth (·.asOption (·.asInstant)) (ofInstant? instant) instant := by
  cases instant with
  | none => exact carries_null
  | some t =>
    apply carries_string
    rw [asInstant, Time.relaxed?_text (dated t rfl)]
    rfl

/-- **A list is carried** by the array of what carries its items. -/
theorem carries_array {toJson : α → Json} {records : List α}
    (each : ∀ record ∈ records, Carries depth read (toJson record) record) :
    Carries (depth + 1) (·.asList read) (array (records.map toJson)) records where
  lossless := by
    apply IsLossless.array
    rw [List.forall_mem_map]
    exact fun record mem => (each record mem).lossless
  plain := by
    rw [asList, mapM_eq_ok_iff, List.forall₂_map_left_iff, List.forall₂_same]
    exact fun record mem => (each record mem).plain
  settled := by
    rw [inOrder_array, List.map_map, asList, mapM_eq_ok_iff, List.forall₂_map_left_iff,
      List.forall₂_same]
    exact fun record mem => (each record mem).settled

end Values

end Json

/-! ### Records -/

namespace RecordShape

variable {shape : RecordShape α} {parts : List (Part α)} {record : α}

/-- Members of distinct keys that have each part of a record are read as this record, in whatever
order they are. -/
theorem IsMadeOf.read_of_mem (made : shape.IsMadeOf parts) (tells : Tells parts)
    (whole : ∀ field ∈ shape.required, field ∈ shape.fields) {members : List (String × Json)}
    (distinct : (members.map (·.1)).Nodup)
    (each : ∀ part ∈ parts, ∃ value, (part.field, value) ∈ members ∧
      part.read value = .ok (part.view record)) : shape.read (.object members) = .ok record := by
  have found : ∀ part ∈ parts, ∃ value, get? part.field members = some value ∧
      part.read value = .ok (part.view record) := by
    intro part mem
    obtain ⟨value, inside, read⟩ := each part mem
    exact ⟨value, get?_of_mem distinct inside, read⟩
  apply made.readMembers_eq_ok tells distinct
  · intro field required
    have known := whole field required
    rw [made.fields] at known
    obtain ⟨part, mem, rfl⟩ := List.mem_map.mp known
    obtain ⟨value, there, -⟩ := found part mem
    rw [there, Option.isSome_some]
  · intro part mem
    obtain ⟨value, there, read⟩ := found part mem
    rw [there]
    exact read

/-- **A record is carried** by the object of what carries its parts, each in the field of its
part. -/
theorem IsMadeOf.carries (made : shape.IsMadeOf parts) (tells : Tells parts)
    (whole : ∀ field ∈ shape.required, field ∈ shape.fields) (distinct : shape.fields.Nodup)
    {depth : Nat} {entries : List (String × Json)} (keys : entries.map (·.1) = shape.fields)
    (each : ∀ part ∈ parts, ∃ value, (part.field, value) ∈ entries ∧
      Json.Carries depth part.read value (part.view record)) :
    Json.Carries (depth + 1) shape.read (.object entries) record := by
  rw [← keys] at distinct
  have lossless : ∀ entry ∈ entries, Json.IsLossless depth entry.2 := by
    intro entry mem
    have known : entry.1 ∈ shape.fields := keys ▸ List.mem_map_of_mem mem
    rw [made.fields] at known
    obtain ⟨part, inside, same⟩ := List.mem_map.mp known
    obtain ⟨value, there, carries⟩ := each part inside
    have own : get? entry.1 entries = some value := get?_of_mem distinct (same ▸ there)
    rw [get?_of_mem distinct mem, Option.some.injEq] at own
    exact own ▸ carries.lossless
  refine ⟨.object distinct lossless, ?_, ?_⟩
  · apply made.read_of_mem tells whole distinct
    intro part mem
    obtain ⟨value, there, carries⟩ := each part mem
    exact ⟨value, there, carries.plain⟩
  · rw [Json.inOrder_object, Json.ofEntries]
    apply made.read_of_mem tells whole (settles_ofList _).2.nodup
    intro part mem
    obtain ⟨value, there, carries⟩ := each part mem
    refine ⟨value.inOrder, ?_, carries.settled⟩
    rw [mem_ofList (Json.map_fst_inOrder entries ▸ distinct)]
    exact List.mem_map.mpr ⟨(part.field, value), there, rfl⟩

end RecordShape

/-! ### Channels -/

section Channels

open Json (carries_text carries_bool)

variable {depth : Nat}

theorem Category.carries_toJson (category : Category) :
    Json.Carries (depth + 1) Category.shape.read category.toJson category := by
  apply Category.isMadeOf_parts.carries Category.tells_parts
  · simp [shape]
  · simp [shape]
  · rfl
  · simp only [parts, List.forall_mem_cons]
    exact ⟨⟨_, .head _, carries_text _⟩, by simp⟩

theorem Image.carries_toJson (image : Image) :
    Json.Carries (depth + 1) Image.shape.read image.toJson image := by
  apply Image.isMadeOf_parts.carries Image.tells_parts
  · simp [shape]
  · simp [shape]
  · rfl
  · simp only [parts, List.forall_mem_cons]
    refine ⟨⟨_, ?_, carries_text image.url⟩, ⟨_, ?_, carries_text image.title⟩,
      ⟨_, ?_, carries_text image.link⟩, by simp⟩ <;> simp

/-- The origin of a channel whose date can be written. -/
theorem ChannelOrigin.carries_toJson {origin : ChannelOrigin}
    (dated : ∀ t, origin.lastAired = some t → t.IsDated) :
    Json.Carries (depth + 1) ChannelOrigin.shape.read origin.toJson origin := by
  apply ChannelOrigin.isMadeOf_parts.carries ChannelOrigin.tells_parts
  · simp [shape]
  · simp [shape]
  · rfl
  · simp only [parts, mappedParts, sourcePart, sourceUrlPart, List.cons_append, List.nil_append,
      List.forall_mem_cons]
    refine ⟨⟨_, ?_, carries_text origin.id⟩, ⟨_, ?_, Json.carries_medium origin.kind⟩,
      ⟨_, ?_, carries_text origin.frequency⟩, ⟨_, ?_, Json.carries_instant dated⟩,
      ⟨_, ?_, carries_text origin.source⟩, ⟨_, ?_, carries_text origin.sourceUrl⟩, by simp⟩ <;> simp

/-- A channel whose date can be written: it is one of the years that have dates, and what is less
than a second is told in nanoseconds. -/
def Channel.IsTyped (channel : Channel) : Prop :=
  ∀ t, channel.origin.lastAired = some t → t.IsDated

/-- **A channel is carried** by its object. -/
theorem Channel.carries_toJson {channel : Channel} (typed : channel.IsTyped) :
    Json.Carries (depth + 3) Channel.shape.read channel.toJson channel := by
  have categories : Json.Carries (depth + 2) (·.asList Category.shape.read)
      (.array (channel.category.map (·.toJson))) channel.category :=
    Json.carries_array fun category _ => category.carries_toJson
  apply Channel.isMadeOf_parts.carries Channel.tells_parts
  · simp [shape]
  · simp [shape]
  · rfl
  · simp only [parts, plainParts, imagePart, originPart, List.cons_append, List.nil_append,
      List.forall_mem_cons]
    refine ⟨⟨_, ?_, carries_text channel.title⟩, ⟨_, ?_, carries_text channel.description⟩,
      ⟨_, ?_, carries_text channel.author⟩, ⟨_, ?_, carries_text channel.language⟩,
      ⟨_, ?_, carries_text channel.link⟩, ⟨_, ?_, carries_text channel.copyright⟩,
      ⟨_, ?_, carries_bool channel.explicit⟩, ⟨_, ?_, carries_text channel.summary⟩,
      ⟨_, ?_, carries_text channel.subtitle⟩, ⟨_, ?_, carries_text channel.keywords⟩,
      ⟨_, ?_, carries_bool channel.locked⟩, ⟨_, ?_, categories⟩,
      ⟨_, ?_, channel.image.carries_toJson⟩, ⟨_, ?_, ChannelOrigin.carries_toJson typed⟩,
      by simp⟩ <;> simp

end Channels

/-! ### Episodes -/

/-- An episode whose date can be written and whose length is a word of seconds. -/
structure Episode.IsTyped (episode : Episode) : Prop where
  publishedAt : ∀ t, episode.publishedAt = some t → t.IsDated
  durationSeconds : ∀ seconds, episode.durationSeconds = some seconds → seconds < Number.wordLimit

/-- **An episode is carried** by its object. -/
theorem Episode.carries_toJson {episode : Episode} (typed : episode.IsTyped) {depth : Nat} :
    Json.Carries (depth + 1) Episode.shape.read episode.toJson episode := by
  have seconds : Json.Carries depth (·.asOption (·.asUnsigned))
      (episode.durationSeconds.elim .null .ofNat) episode.durationSeconds := by
    cases own : episode.durationSeconds with
    | none => exact Json.carries_null
    | some seconds => exact Json.carries_unsigned (typed.durationSeconds seconds own)
  apply Episode.isMadeOf_parts.carries Episode.tells_parts
  · simp [shape]
  · simp [shape]
  · rfl
  · simp only [parts, List.forall_mem_cons]
    refine ⟨⟨_, ?_, Json.carries_text episode.id⟩, ⟨_, ?_, Json.carries_text episode.title⟩,
      ⟨_, ?_, Json.carries_text episode.description⟩, ⟨_, ?_, Json.carries_text episode.audioUrl⟩,
      ⟨_, ?_, Json.carries_text episode.imageUrl⟩, ⟨_, ?_, seconds⟩,
      ⟨_, ?_, Json.carries_instant typed.publishedAt⟩, by simp⟩ <;> simp

/-! ### Texts -/

namespace Json

/-- Records that are printed are read back from what is printed. -/
theorem asList_printed {depth : Nat} {read : Json → Except ShapeError α} {toJson : α → Json}
    {records : List α} (shallow : depth + 1 = deepest)
    (each : ∀ record ∈ records, Carries depth read (toJson record) record) :
    (parse? (Command.printed (records.map toJson))).map (·.asList read) = some (.ok records) := by
  have carries := carries_array each
  have own := isText_prettyAt carries.lossless 0
  rw [shallow] at own
  have gap : IsGap "\n".toList := by simp [IsGap, isSpace]
  have parsed : parse? (Command.printed (records.map toJson)) =
      some (array (records.map toJson)).inOrder := parse?_append own gap
  rw [parsed, Option.map_some, carries.settled]

end Json

/-- **Channels and episodes are read back** from the objects that are written of them and from each
of their texts, and lists of them from what is printed. -/
theorem canonical_records_read_back :
    (∀ channel : Channel, channel.IsTyped →
      Json.ReadsBack Channel.read channel.toJson channel) ∧
    (∀ episode : Episode, episode.IsTyped →
      Json.ReadsBack Episode.read episode.toJson episode) ∧
    (∀ channels : List Channel, (∀ channel ∈ channels, channel.IsTyped) →
      (Json.parse? (Command.printed (channels.map (·.toJson)))).map (·.asList Channel.read) =
        some (.ok channels)) ∧
    (∀ episodes : List Episode, (∀ episode ∈ episodes, episode.IsTyped) →
      (Json.parse? (Command.printed (episodes.map (·.toJson)))).map (·.asList Episode.read) =
        some (.ok episodes)) := by
  refine ⟨?_, ?_, ?_, ?_⟩
  · intro channel typed
    have carries : Json.Carries (124 + 3) Channel.read channel.toJson channel :=
      Channel.carries_toJson typed
    exact carries.readsBack
  · intro episode typed
    have carries : Json.Carries (126 + 1) Episode.read episode.toJson episode :=
      Episode.carries_toJson typed
    exact carries.readsBack
  · intro channels typed
    have each : ∀ channel ∈ channels,
        Json.Carries (123 + 3) Channel.read channel.toJson channel :=
      fun channel mem => Channel.carries_toJson (typed channel mem)
    exact Json.asList_printed rfl each
  · intro episodes typed
    have each : ∀ episode ∈ episodes,
        Json.Carries (125 + 1) Episode.read episode.toJson episode :=
      fun episode mem => Episode.carries_toJson (typed episode mem)
    exact Json.asList_printed rfl each

/-- A channel with characters that are escaped, last aired in a leap second. -/
def lateChannel : Channel where
  title := "Krim \"&\" \\ nrk\n\u0001"
  explicit := true
  category := [⟨"a"⟩, ⟨""⟩, ⟨"a"⟩]
  image := { url := "http://h/?a=b", title := "\t" }
  origin := { id := "x-Å", kind := some .book, lastAired := some ⟨1483228799, 1123456789⟩ }

/-- An episode of the first day that has a date, as long as can be. -/
def earlyEpisode : Episode where
  id := "1"
  durationSeconds := some 18446744073709551615
  publishedAt := some ⟨Time.firstDay * 86400, 120000000⟩

theorem isTyped_lateChannel : lateChannel.IsTyped := by
  rintro t ⟨⟩
  exact ⟨by decide +kernel, by decide +kernel, by decide +kernel⟩

theorem isTyped_earlyEpisode : earlyEpisode.IsTyped where
  publishedAt := by
    rintro t ⟨⟩
    exact ⟨by decide +kernel, by decide +kernel, by decide +kernel⟩
  durationSeconds := by
    rintro seconds ⟨⟩
    decide +kernel

/-- Both are read back, by themselves and from a list that is printed. -/
theorem late_channel_read_back :
    lateChannel.IsTyped ∧ earlyEpisode.IsTyped ∧
      (Json.parse? lateChannel.toJson.render).map Channel.read = some (.ok lateChannel) ∧
      (Json.parse? earlyEpisode.toJson.pretty).map Episode.read = some (.ok earlyEpisode) ∧
      (Json.parse? (Command.printed [lateChannel.toJson])).map (·.asList Channel.read) =
        some (.ok [lateChannel]) := by
  obtain ⟨channel, episode, channels, -⟩ := canonical_records_read_back
  refine ⟨isTyped_lateChannel, isTyped_earlyEpisode, (channel _ isTyped_lateChannel).line,
    (episode _ isTyped_earlyEpisode).lines, ?_⟩
  have typed : ∀ channel ∈ [lateChannel], channel.IsTyped := by
    rw [List.forall_mem_singleton]
    exact isTyped_lateChannel
  exact channels [lateChannel] typed

end CatalogFeeds
