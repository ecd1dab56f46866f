import CatalogFeeds.Proofs.Feed.Dates
import CatalogFeeds.Proofs.Feed.Markup
/-!
What a feed says.

The contents of a feed are listed field by field: every text that has a place of its own, under
the name of its element, and whether the element is there when the text is missing. What is
written of a channel with a title and of dates that can be written is exactly this, however the
texts look.

* `tree_eq` — the element tree of a feed is its contents.
* `isProper_contents` — they can be read back, because nothing that holds elements is ever empty.
* `contents_read_back` — a reader of markup finds them in the feed again.
-/

namespace CatalogFeeds.Feed

open CatalogFeeds.Text CatalogFeeds.Time CatalogFeeds.Xml

/-! ### Contents -/

/-- A text that is left out if it is empty. -/
def shown (text : String) : Option String :=
  if text = "" then none else some text

/-- The elements of texts, under their names and in their order, of the texts that there are. -/
def rows (fields : List (String × Option String)) : List Xml :=
  fields.filterMap fun (name, text) => text.map (.leaf name [])

/-- The element that refers to a picture. -/
def pictures (url : String) : List Xml :=
  (shown url).toList.map fun url => .empty "itunes:image" [("href", url)]

/-- What a feed says about an episode. -/
def itemContents (episode : Episode) : List Xml :=
  rows [("title", some episode.title), ("description", some episode.description)] ++
  (shown episode.id).toList.map (.leaf "guid" [("isPermaLink", "false")]) ++
  rows [("link", shown episode.audioUrl)] ++
  (shown episode.audioUrl).toList.map (fun url => .empty "enclosure" [
    ("url", url), ("type", "audio/mpeg"),
    ("length", toString (min (1000 * episode.durationSeconds.getD 0) (UInt64.size - 1)))]) ++
  rows [("itunes:duration", episode.durationSeconds.map durationText),
    ("pubDate", episode.publishedAt.bind Instant.mailText?)] ++
  pictures episode.imageUrl

/-- What a feed says about the picture of a channel. -/
def imageContents (channel : Channel) : List Xml :=
  pictures channel.image.url ++
  (shown channel.image.url).toList.map fun url => .parent "image" [] (rows [
    ("url", some url),
    ("title", some ((shown channel.image.title).getD channel.title)),
    ("link", shown channel.image.link)])

/-- What a feed says about a channel. -/
def channelContents (settings : FeedSettings) (channel : Channel) : List Xml :=
  rows [
    ("title", some channel.title),
    ("description", some channel.description),
    ("language", some ((shown channel.language).getD settings.language)),
    ("link", shown channel.link),
    ("copyright", shown channel.copyright),
    ("itunes:author", some ((shown channel.author).getD settings.ownerName)),
    ("itunes:summary", shown channel.summary),
    ("itunes:subtitle", shown channel.subtitle),
    ("itunes:keywords", shown channel.keywords),
    ("itunes:explicit", some (if channel.explicit then "yes" else "no")),
    ("itunes:locked", some (if channel.locked then "yes" else "no")),
    ("lastBuildDate", channel.origin.lastAired.bind Instant.mailText?)] ++
  [.parent "itunes:owner" [] (rows [("itunes:name", some settings.ownerName)])] ++
  channel.category.map (fun category => .empty "itunes:category" [("text", category.text)]) ++
  imageContents channel

/-- **The contents of a feed.** -/
def contents (settings : FeedSettings) (channel : Channel) (episodes : List Episode) : Xml :=
  .parent "rss" (("version", "2.0") :: namespaces) [.parent "channel" []
    (channelContents settings channel ++
      episodes.map fun episode => .parent "item" [] (itemContents episode))]

/-! ### The tree of a feed -/

variable (settings : FeedSettings) (channel : Channel) (episodes : List Episode)
  (name text fallback : String)

theorem shown_eq : shown text = if text.isEmpty then none else some text := by
  simp [shown]

@[simp]
theorem rows_nil : rows [] = [] :=
  rfl

@[simp]
theorem rows_cons (field : Option String) (fields : List (String × Option String)) :
    rows ((name, field) :: fields) = (field.map (.leaf name [])).toList ++ rows fields := by
  cases field <;> rfl

theorem textElement?_eq : textElement? name text = rows [(name, shown text)] := by
  rw [textElement?, shown_eq]
  split <;> rfl

theorem orElse_eq : orElse text fallback = (shown text).getD fallback := by
  rw [orElse, shown_eq]
  split <;> rfl

theorem pictureElement?_eq : pictureElement? text = pictures text := by
  rw [pictureElement?, pictures, shown_eq]
  split <;> rfl

theorem dateElement?_eq {date : Option Instant} (dated : ∀ t ∈ date, t.HasMailYear) :
    dateElement? name date = .ok (rows [(name, date.bind Instant.mailText?)]) := by
  cases date with
  | none => rfl
  | some t =>
    have year : t.HasMailYear := by simpa using dated
    cases written : t.mailText? with
    | none =>
      have outside := Instant.mailText?_eq_none_iff.mp written
      contradiction
    | some text =>
      have made : dateText t = .ok text := by
        unfold dateText
        simp only [written]
      rw [dateElement?, made, Option.bind_some, written]
      rfl

theorem guidElement?_eq :
    guidElement? text = (shown text).toList.map (.leaf "guid" [("isPermaLink", "false")]) := by
  rw [guidElement?, shown_eq]
  split <;> rfl

theorem soundElements_eq (episode : Episode) :
    soundElements episode = rows [("link", shown episode.audioUrl)] ++
      (shown episode.audioUrl).toList.map (fun url => .empty "enclosure" [
        ("url", url), ("type", "audio/mpeg"),
        ("length", toString (min (1000 * episode.durationSeconds.getD 0) (UInt64.size - 1)))]) := by
  have limit : Number.wordLimit = UInt64.size := rfl
  rw [soundElements, shown_eq]
  split
  · rfl
  · simp [textElement, enclosureLength, limit, Nat.mul_comm 1000]

theorem imageElements_eq : imageElements channel = imageContents channel := by
  rw [imageElements, imageContents, pictureElement?_eq, pictures, shown_eq channel.image.url]
  split
  · rfl
  · simp [textElement, textElement?_eq, orElse_eq]

theorem episodeElement_eq {episode : Episode} (dated : ∀ t ∈ episode.publishedAt, t.HasMailYear) :
    episodeElement episode = .ok (.parent "item" [] (itemContents episode)) := by
  have duration : episode.durationSeconds.elim []
        (fun n => [textElement "itunes:duration" (durationText n)]) =
      rows [("itunes:duration", episode.durationSeconds.map durationText)] := by
    cases episode.durationSeconds <;> rfl
  rw [episodeElement, dateElement?_eq "pubDate" dated, guidElement?_eq, soundElements_eq, duration,
    pictureElement?_eq]
  simp [bind, Except.bind, pure, Except.pure, itemContents, textElement]

theorem channelElements_eq (dated : ∀ t ∈ channel.origin.lastAired, t.HasMailYear) :
    channelElements settings channel = .ok (channelContents settings channel) := by
  rw [channelElements, dateElement?_eq "lastBuildDate" dated, imageElements_eq]
  simp [bind, Except.bind, pure, Except.pure, channelContents, textElement, textElement?_eq,
    orElse_eq, flagWord]

/-- **The element tree of a feed is its contents.** -/
theorem tree_eq (titled : isBlankText channel.title = false)
    (dated : ∀ t ∈ dates channel episodes, t.HasMailYear) :
    tree settings channel episodes = .ok (contents settings channel episodes) := by
  obtain ⟨aired, published⟩ := (forall_mem_dates channel episodes).mp dated
  have items : episodes.mapM episodeElement =
      .ok (episodes.map fun episode => .parent "item" [] (itemContents episode)) := by
    rw [mapM_eq_ok_iff, List.forall₂_map_right_iff, List.forall₂_same]
    exact fun episode mem => episodeElement_eq (published episode mem)
  rw [tree, channelElements_eq settings channel aired, items]
  simp [titled, bind, Except.bind, pure, Except.pure, contents]

/-! ### Reading a feed back -/

/-- The names of the elements and of the attributes that feeds consist of. -/
def vocabulary : List String := [
  "rss", "version", "xmlns:atom", "xmlns:itunes", "xmlns:itunesu", "xmlns:googleplay", "channel",
  "title", "description", "language", "link", "copyright", "itunes:author", "itunes:summary",
  "itunes:subtitle", "itunes:keywords", "itunes:explicit", "itunes:locked", "lastBuildDate",
  "itunes:owner", "itunes:name", "itunes:category", "text", "itunes:image", "href", "image", "url",
  "item", "guid", "isPermaLink", "enclosure", "type", "length", "itunes:duration", "pubDate"]

theorem isName_of_mem_vocabulary :
    ∀ word ∈ vocabulary, isName word.toList = true := by
  decide +kernel

variable {name} in
theorem isHead_of_words {attributes : List (String × String)}
    (words : ∀ word ∈ name :: attributes.map (·.1), word ∈ vocabulary) :
    IsHead name attributes := by
  obtain ⟨word, keys⟩ := List.forall_mem_cons.mp words
  exact ⟨isName_of_mem_vocabulary name word, fun entry mem =>
    isName_of_mem_vocabulary entry.1 (keys _ (List.mem_map_of_mem mem))⟩

theorem isProper_rows {fields : List (String × Option String)}
    (words : ∀ word ∈ fields.map (·.1), word ∈ vocabulary) : ∀ x ∈ rows fields, IsProper x := by
  intro x mem
  obtain ⟨⟨name, field⟩, listed, made⟩ := List.mem_filterMap.mp mem
  obtain ⟨text, -, rfl⟩ := Option.map_eq_some_iff.mp made
  have word : name ∈ vocabulary := words name (List.mem_map_of_mem listed)
  exact .leaf (isHead_of_words (by simp [word])) text

theorem isProper_pictures (url : String) : ∀ x ∈ pictures url, IsProper x := by
  intro x mem
  obtain ⟨url, -, rfl⟩ := List.mem_map.mp mem
  exact .empty (isHead_of_words (by simp [vocabulary]))

theorem isProper_item (episode : Episode) :
    IsProper (.parent "item" [] (itemContents episode)) := by
  refine .parent (isHead_of_words (by simp [vocabulary])) (by simp [itemContents]) ?_
  simp only [itemContents, List.forall_mem_append]
  refine ⟨⟨⟨⟨⟨?texts, ?guid⟩, ?link⟩, ?enclosure⟩, ?dates⟩, isProper_pictures _⟩
  case texts => exact isProper_rows (by simp [vocabulary])
  case guid =>
    intro x mem
    obtain ⟨id, -, rfl⟩ := List.mem_map.mp mem
    exact .leaf (isHead_of_words (by simp [vocabulary])) id
  case link => exact isProper_rows (by simp [vocabulary])
  case enclosure =>
    intro x mem
    obtain ⟨url, -, rfl⟩ := List.mem_map.mp mem
    exact .empty (isHead_of_words (by simp [vocabulary]))
  case dates => exact isProper_rows (by simp [vocabulary])

theorem isProper_imageContents : ∀ x ∈ imageContents channel, IsProper x := by
  simp only [imageContents, List.forall_mem_append]
  refine ⟨isProper_pictures _, fun x mem => ?_⟩
  obtain ⟨url, -, rfl⟩ := List.mem_map.mp mem
  exact .parent (isHead_of_words (by simp [vocabulary])) (by simp)
    (isProper_rows (by simp [vocabulary]))

theorem isProper_channelContents : ∀ x ∈ channelContents settings channel, IsProper x := by
  simp only [channelContents, List.forall_mem_append]
  refine ⟨⟨⟨?texts, ?owner⟩, ?categories⟩, isProper_imageContents channel⟩
  case texts => exact isProper_rows (by simp [vocabulary])
  case owner =>
    intro x mem
    obtain rfl := List.mem_singleton.mp mem
    exact .parent (isHead_of_words (by simp [vocabulary])) (by simp)
      (isProper_rows (by simp [vocabulary]))
  case categories =>
    intro x mem
    obtain ⟨category, -, rfl⟩ := List.mem_map.mp mem
    exact .empty (isHead_of_words (by simp [vocabulary]))

/-- **The contents of a feed can be read back**: whatever a feed leaves out, its channel and its
episodes have elements. -/
theorem isProper_contents : IsProper (contents settings channel episodes) := by
  have items : ∀ x ∈ episodes.map fun episode => Xml.parent "item" [] (itemContents episode),
      IsProper x := by
    intro x mem
    obtain ⟨episode, -, rfl⟩ := List.mem_map.mp mem
    exact isProper_item episode
  refine .parent (isHead_of_words (by simp [vocabulary, namespaces])) (by simp) fun x mem => ?_
  obtain rfl := List.mem_singleton.mp mem
  exact .parent (isHead_of_words (by simp [vocabulary])) (by simp [channelContents])
    (List.forall_mem_append.mpr ⟨isProper_channelContents settings channel, items⟩)

/-- **A feed says what it was made of.** The feed of a channel with a title, with dates in the
years 0 to 9999, is a text in which a reader of markup finds the contents of the feed: all
elements that its fields call for, in their order, and every text exactly as it was. -/
theorem contents_read_back (settings : FeedSettings) (channel : Channel) (episodes : List Episode)
    (titled : isBlankText channel.title = false)
    (dated : ∀ t ∈ dates channel episodes, t.HasMailYear) :
    ∃ feed, render settings channel episodes = .ok feed ∧
      Xml.read? feed = some (contents settings channel episodes) := by
  refine ⟨document (contents settings channel episodes), ?_, ?_⟩
  · rw [render, tree_eq settings channel episodes titled dated]
    rfl
  · exact read?_document (isProper_contents settings channel episodes)

/-- A channel whose texts look like markup. -/
def markedChannel : Channel where
  title := "Krim & <Kaffe>"
  description := "</description> ]]> &amp;"
  category := [⟨"History \"& more\""⟩]
  image := { url := "https://img/lg.jpg?a=1&b=2" }

/-- An episode of it. -/
def markedEpisode : Episode where
  id := "e'1"
  title := "</item>"
  audioUrl := "https://cdn/e1.mp3?token=\">"
  durationSeconds := some 1815
  publishedAt := some ⟨1709280000, 0⟩

theorem contents_read_back_markup :
    isBlankText markedChannel.title = false ∧
      (∀ t ∈ dates markedChannel [markedEpisode], t.HasMailYear) ∧
      ∃ feed, render {} markedChannel [markedEpisode] = .ok feed ∧
        Xml.read? feed = some (contents {} markedChannel [markedEpisode]) := by
  have titled : isBlankText markedChannel.title = false := by decide +kernel
  have dated : ∀ t ∈ dates markedChannel [markedEpisode], t.HasMailYear := by
    simp [dates, markedChannel, markedEpisode, Instant.hasMailYear_iff]
  exact ⟨titled, dated, contents_read_back {} markedChannel [markedEpisode] titled dated⟩

end CatalogFeeds.Feed
