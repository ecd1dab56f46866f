import CatalogFeeds.Proofs.Feed.Trials
import CatalogFeeds.Proofs.Time.Calendar
/-!
What keeps a feed from being written.

A channel without a title has no feed. Apart from that a feed has all parts it needs, except that
a date may have no written form, which ends a whole run.

* `Dated.bind`, `Dated.mapM` — what is put together of parts fails for a date exactly if one of
  the parts does.
* `render_dated` — a feed fails for the dates that it shows, and for nothing else.
* `dates_decide_feeds` — what becomes of every feed, and what ends a run.
* `decoded_dates_unwritable` — catalogues can send such dates.
-/

namespace CatalogFeeds.Feed

open CatalogFeeds.Text CatalogFeeds.Time

/-! ### Parts with dates -/

section Parts

variable {α β : Type} {result : Except FeedError α} {holds holds' : Prop}

/-- A part of a feed is made exactly if a condition on its dates holds. -/
structure Dated (result : Except FeedError α) (holds : Prop) : Prop where
  made : holds → ∃ a, result = .ok a
  failed : ¬ holds → result = .error .unwritableDate

theorem Dated.pure (a : α) (h : holds) : Dated (.ok a) holds :=
  ⟨fun _ => ⟨a, rfl⟩, fun absent => absurd h absent⟩

theorem Dated.map (h : Dated result holds) (f : α → β) : Dated (result.map f) holds := by
  constructor
  · intro fine
    obtain ⟨a, same⟩ := h.made fine
    exact ⟨f a, by rw [same]; rfl⟩
  · intro wrong
    rw [h.failed wrong]
    rfl

theorem Dated.bind {next : α → Except FeedError β} (h : Dated result holds)
    (h' : ∀ a, Dated (next a) holds') : Dated (result >>= next) (holds ∧ holds') := by
  constructor
  · rintro ⟨fine, fine'⟩
    obtain ⟨a, same⟩ := h.made fine
    obtain ⟨b, same'⟩ := (h' a).made fine'
    exact ⟨b, by rw [same]; exact same'⟩
  · intro wrong
    by_cases fine : holds
    · obtain ⟨a, same⟩ := h.made fine
      rw [same]
      exact (h' a).failed fun fine' => wrong ⟨fine, fine'⟩
    · rw [h.failed fine]
      rfl

theorem Dated.mapM {make : β → Except FeedError α} {fine : β → Prop} (items : List β)
    (h : ∀ item, Dated (make item) (fine item)) :
    Dated (items.mapM make) (∀ item ∈ items, fine item) := by
  induction items with
  | nil => exact .pure [] (by simp)
  | cons item items ih =>
    rw [List.mapM_cons, List.forall_mem_cons]
    exact (h item).bind fun first => ih.map (first :: ·)

theorem Dated.ok_iff (h : Dated result holds) : (∃ a, result = .ok a) ↔ holds := by
  refine ⟨fun ⟨a, same⟩ => ?_, h.made⟩
  by_contra wrong
  simp [h.failed wrong] at same

theorem Dated.error_iff (h : Dated result holds) (error : FeedError) :
    result = .error error ↔ ¬ holds ∧ error = .unwritableDate := by
  by_cases fine : holds
  · obtain ⟨a, same⟩ := h.made fine
    simp [same, fine]
  · simp [h.failed fine, fine, eq_comm]

end Parts

/-! ### Feeds -/

variable (settings : FeedSettings) (channel : Channel) (episodes : List Episode)

/-- The dates that a feed shows. -/
def dates (channel : Channel) (episodes : List Episode) : List Instant :=
  channel.origin.lastAired.toList ++ episodes.filterMap (·.publishedAt)

theorem dateElement?_dated (name : String) (date : Option Instant) :
    Dated (dateElement? name date) (∀ t ∈ date, t.HasMailYear) := by
  cases date with
  | none => exact .pure [] (by simp)
  | some t =>
    have text : Dated (dateText t) (∀ u ∈ some t, u.HasMailYear) := by
      simp only [Option.mem_some_iff, forall_eq']
      unfold dateText
      cases written : t.mailText? with
      | some text =>
        refine .pure text (by_contra fun outside => ?_)
        rw [Instant.mailText?_eq_none_iff.mpr outside] at written
        contradiction
      | none =>
        have outside := Instant.mailText?_eq_none_iff.mp written
        exact ⟨fun inside => absurd inside outside, fun _ => rfl⟩
    exact text.map fun text => [textElement name text]

theorem episodeElement_dated (episode : Episode) :
    Dated (episodeElement episode) (∀ t ∈ episode.publishedAt, t.HasMailYear) :=
  (dateElement?_dated "pubDate" episode.publishedAt).map _

theorem channelElements_dated :
    Dated (channelElements settings channel) (∀ t ∈ channel.origin.lastAired, t.HasMailYear) :=
  (dateElement?_dated "lastBuildDate" channel.origin.lastAired).map _

theorem forall_mem_dates {holds : Instant → Prop} :
    (∀ t ∈ dates channel episodes, holds t) ↔
      (∀ t ∈ channel.origin.lastAired, holds t) ∧
        ∀ episode ∈ episodes, ∀ t ∈ episode.publishedAt, holds t := by
  simp only [dates, List.forall_mem_append, Option.mem_toList, List.mem_filterMap,
    forall_exists_index, and_imp]
  constructor
  · rintro ⟨aired, published⟩
    exact ⟨aired, fun episode mem t date => published t episode mem date⟩
  · rintro ⟨aired, published⟩
    exact ⟨aired, fun t episode mem date => published episode mem t date⟩

/-- A channel without a title has no feed, whatever its dates are. -/
theorem render_of_blank (blank : isBlankText channel.title = true) :
    render settings channel episodes = .error (.noTitle channel.origin.id) := by
  simp [render, tree, blank, throw, throwThe, MonadExceptOf.throw, bind, Except.bind, Except.map]

/-- **The feed of a channel with a title** is made exactly if all its dates have a written form. -/
theorem render_dated (titled : isBlankText channel.title = false) :
    Dated (render settings channel episodes) (∀ t ∈ dates channel episodes, t.HasMailYear) := by
  rw [forall_mem_dates, render, tree]
  simp only [titled, Bool.false_eq_true, if_false]
  exact ((channelElements_dated settings channel).bind fun elements =>
    (Dated.mapM episodes episodeElement_dated).map _).map Xml.document

theorem render_ok_iff :
    (∃ feed, render settings channel episodes = .ok feed) ↔
      isBlankText channel.title = false ∧ ∀ t ∈ dates channel episodes, t.HasMailYear := by
  cases titled : isBlankText channel.title with
  | true => simp [render_of_blank settings channel episodes titled]
  | false => simp [(render_dated settings channel episodes titled).ok_iff]

theorem render_noTitle_iff :
    render settings channel episodes = .error (.noTitle channel.origin.id) ↔
      isBlankText channel.title = true := by
  cases titled : isBlankText channel.title with
  | true => simp [render_of_blank settings channel episodes titled]
  | false => simp [(render_dated settings channel episodes titled).error_iff]

theorem render_unwritableDate_iff :
    render settings channel episodes = .error .unwritableDate ↔
      isBlankText channel.title = false ∧ ∃ t ∈ dates channel episodes, ¬ t.HasMailYear := by
  cases titled : isBlankText channel.title with
  | true => simp [render_of_blank settings channel episodes titled]
  | false => simp [(render_dated settings channel episodes titled).error_iff]

/-! ### Runs -/

theorem isFatal_iff {error : PublishError} :
    error.isFatal = true ↔ error = .feed .unwritableDate := by
  unfold PublishError.isFatal
  split <;> simp_all

/-- A feed that ends a run shows a date that has no written form. -/
theorem exists_date_of_mergedFeed {folder : FeedFolder} {around : Surroundings} {roster : Roster}
    {channel : Channel} {session : Session}
    (h : (PublishM.outcome (folder.mergedFeed around roster channel) session).1 =
      .error (.feed .unwritableDate)) :
    ∃ source harvest, roster.source? channel.origin.source = some source ∧
      ((source.episodesOf around channel.origin.id).outcome session).1 = .ok harvest ∧
      ∃ t ∈ dates channel harvest.records, ¬ t.HasMailYear := by
  rcases FeedFolder.mergedFeed_cases h with ⟨-, same⟩ | ⟨-, same⟩ | ⟨-, source, known, listing⟩
  · simp at same
  · simp at same
  · rcases listing with ⟨error, -, same⟩ | ⟨harvest, listed, same⟩
    · simp at same
    · have rendered : render folder.settings channel harvest.records = .error .unwritableDate := by
        cases shown : render folder.settings channel harvest.records with
        | ok feed => simp [shown, Except.mapError] at same
        | error error => simpa [shown, Except.mapError, eq_comm] using same
      exact ⟨source, harvest, known, listed, ((render_unwritableDate_iff ..).mp rendered).2⟩

/-! ### The main statement -/

/-- **Dates decide.** A channel with a title has a feed exactly if every date that the feed shows
lies in the years 0 to 9999, and a channel without one is refused; nothing else is amiss with a
feed. What ends a run, apart from the files, is a date outside these years: the last one of a
merged channel, or one of the episodes that its source lists. -/
theorem dates_decide_feeds (settings : FeedSettings) :
    (∀ channel episodes, (∃ feed, render settings channel episodes = .ok feed) ↔
      isBlankText channel.title = false ∧ ∀ t ∈ dates channel episodes, t.HasMailYear) ∧
    (∀ channel episodes, render settings channel episodes = .error (.noTitle channel.origin.id) ↔
      isBlankText channel.title = true) ∧
    (∀ channel episodes, render settings channel episodes = .error .unwritableDate ↔
      isBlankText channel.title = false ∧ ∃ t ∈ dates channel episodes, ¬ t.HasMailYear) ∧
    ∀ (folder : FeedFolder) around roster session error,
      (PublishM.outcome (folder.publishAll around roster) session).1 = .error error →
      (∃ cause, error = .io cause) ∨
        error = .feed .unwritableDate ∧
        ∃ channel ∈ (folder.gathered around roster session).1.1.channels,
          ∃ source harvest before, roster.source? channel.origin.source = some source ∧
            ((source.episodesOf around channel.origin.id).outcome before).1 = .ok harvest ∧
            ∃ t ∈ dates channel harvest.records, ¬ t.HasMailYear := by
  refine ⟨render_ok_iff settings, render_noTitle_iff settings,
    render_unwritableDate_iff settings, ?_⟩
  intro folder around roster session error failed
  rcases FeedFolder.publishAll_error failed with cause | ⟨fatal, channel, mem, before, feed⟩
  · exact .inl cause
  · obtain rfl := isFatal_iff.mp fatal
    obtain ⟨source, harvest, found, listed, date⟩ := exists_date_of_mergedFeed feed
    exact .inr ⟨rfl, channel, mem, source, harvest, before, found, listed, date⟩

/-- An engine for a catalogue. -/
def airedEngine : Engine where
  name := "s"
  baseUrl := { scheme := "http", host := some "h", path := .segments [""] }
  ttl := Engine.defaultTtl

/-- How channels are read of which the catalogue says when they were last aired. -/
def airedChannels : EndpointDefinition where
  path := "c"
  mapping := [("Title", "t"), ("_meta.lastAired", "d")]

/-- How their episodes are read. -/
def airedEpisodes : EndpointDefinition where
  path := "e"
  mapping := [("Title", "t")]

/-- A channel that was last aired in the first second of the year 10000. -/
def lateChannel : Channel where
  title := "Krim"
  origin := { lastAired := some ⟨253402300800, 0⟩, source := "s", sourceUrl := "c" }

/-- What its catalogue says. -/
def latePayload : ByteArray :=
  (Json.array [.ofEntries [("t", .string "Krim"), ("d", .ofNat 253402300800)]]).render.toUTF8

/-- **Catalogues can send dates that cannot be written**, through endpoints that can be
compiled. -/
theorem decoded_dates_unwritable :
    ¬ ∀ (engine : Engine) (definition definition' : EndpointDefinition)
      (endpoint endpoint' : Endpoint) (payload payload' : ByteArray) (channels : List Channel)
      (episodes : List Episode) (settings : FeedSettings),
      engine.compile definition .channel = .ok endpoint →
      engine.compile definition' .episode = .ok endpoint' →
      engine.decodeChannels endpoint payload = .ok channels →
      engine.decodeEpisodes endpoint' payload' = .ok episodes →
      ∀ channel ∈ channels, render settings channel episodes ≠ .error .unwritableDate := by
  intro never
  have late : airedEngine.compile airedChannels .channel >>=
      (airedEngine.decodeChannels · latePayload) = .ok [lateChannel] :=
    toOption_eq_some_iff.mp (by decide +kernel)
  have none : airedEngine.compile airedEpisodes .episode >>=
      (airedEngine.decodeEpisodes · "[]".toUTF8) = .ok [] :=
    toOption_eq_some_iff.mp (by decide +kernel)
  obtain ⟨endpoint, compiled, decoded⟩ := bind_eq_ok_iff.mp late
  obtain ⟨endpoint', compiled', decoded'⟩ := bind_eq_ok_iff.mp none
  refine never airedEngine airedChannels airedEpisodes endpoint endpoint' _ _ _ _ {} compiled
    compiled' decoded decoded' lateChannel List.mem_cons_self ?_
  have outside : ¬ (Instant.mk 253402300800 0).HasMailYear := by
    simp [Instant.hasMailYear_iff]
  rw [render_unwritableDate_iff]
  exact ⟨by decide +kernel, _, List.mem_cons_self, outside⟩

end CatalogFeeds.Feed
