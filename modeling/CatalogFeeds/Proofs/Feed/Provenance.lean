import CatalogFeeds.Proofs.Engine.Provenance
import CatalogFeeds.Proofs.Feed.Files
import CatalogFeeds.Proofs.Source.Findings
/-!
Where the channels of a run come from.

The name that a channel carries is that of its source, whatever the mapping of the source says, so
the source of a merged channel is always found again.

* `Finding.origin_of_lists` — a channel in a list of a source carries the name of the source.
* `provenance_certain` — the origin of decoded channels, the sources of merged channels, and what
  a run therefore never reports.
-/

namespace CatalogFeeds

open PublishM

/-- A source that has been made from settings. -/
def Source.IsMade (source : Source) : Prop :=
  ∃ settings ttl modifiers, Source.make settings ttl modifiers = .ok source

theorem Source.isMade_of_makeAll {settings : Settings} {modifiers : ModifierSet}
    {sources : List Source} (h : makeAll settings modifiers = .ok sources) :
    ∀ source ∈ sources, source.IsMade := by
  intro source mem
  obtain ⟨own, -, made⟩ := exists_of_mem_mapM h mem
  exact ⟨own, settings.cache.ttl, modifiers, made⟩

variable {roster : Roster} {around : Surroundings} {session : Session}

/-- **The channels of a source** carry its name and the key of one of its listings. -/
theorem Finding.origin_of_lists {finding : Finding}
    (mem : finding ∈ roster.findings around session) (made : finding.source.IsMade)
    {channel : Channel} (listed : finding.Lists channel) :
    channel.origin.source = finding.source.name ∧
      ∃ listing ∈ finding.source.listings,
        channel.origin.sourceUrl = listing.endpoint.signature := by
  obtain ⟨settings, ttl, modifiers, made⟩ := made
  obtain ⟨-, before, collected⟩ := Roster.exists_of_mem_findings mem
  obtain ⟨list, given, inside⟩ := listed
  rw [collected] at given
  obtain ⟨listing, own, decoded⟩ := Source.decodes_of_mem_lists given
  obtain ⟨definition, compiled⟩ := Source.compiled_of_make made listing own
  obtain ⟨named, keyed⟩ := Engine.origin_of_decode compiled decoded channel inside
  exact ⟨named, listing, own, keyed⟩

/-- The source that a channel names is the one whose lists it is in. -/
theorem source?_of_lists (made : ∀ source ∈ roster.sources, source.IsMade)
    (different : (roster.sources.map (·.name)).Nodup) {finding : Finding}
    (mem : finding ∈ roster.findings around session) {channel : Channel}
    (listed : finding.Lists channel) :
    roster.source? channel.origin.source = some finding.source := by
  obtain ⟨inside, -⟩ := Roster.exists_of_mem_findings mem
  rw [(Finding.origin_of_lists mem (made _ inside) listed).1]
  exact Roster.source?_of_mem different inside

namespace FeedFolder

variable {folder : FeedFolder}

/-- A channel with a source that is known is not reported for an unknown one. -/
theorem mergedFeed_ne_unknown {channel : Channel} {source : Source}
    (known : roster.source? channel.origin.source = some source) (name : String) :
    (outcome (folder.mergedFeed around roster channel) session).1 ≠
      .error (.notFound "source" name) := by
  intro h
  rcases mergedFeed_cases h with ⟨-, same⟩ | ⟨unknown, -⟩ | ⟨-, _, -, listing⟩
  · simp at same
  · rw [known] at unknown
    contradiction
  · rcases listing with ⟨error, -, same⟩ | ⟨harvest, -, same⟩
    · simp at same
    · cases shown : Feed.render folder.settings channel harvest.records <;>
        simp [shown, Except.mapError] at same

/-- A channel is left out for what trying it has given. -/
theorem exists_of_mem_failed {report : FolderReport} {after : Session}
    {entry : String × PublishError}
    (h : outcome (folder.publishAll around roster) session = (.ok report, after))
    (mem : entry ∈ report.failed) :
    ∃ channel ∈ (folder.gathered around roster session).1.1.channels,
      entry.1 = channel.title ∧ ∃ before,
        (outcome (folder.mergedFeed around roster channel) before).1 = .error entry.2 := by
  have run := publishAll_ok h
  rw [(report_of_trials run).2.2.1, List.nil_append] at mem
  obtain ⟨trial, tried, failure⟩ := List.mem_filterMap.mp mem
  obtain ⟨inside, -, before, result⟩ := exists_of_mem_trials tried
  cases given : trial.result with
  | ok feed => simp [Trial.failure?, given] at failure
  | error error =>
    obtain rfl : (trial.channel.title, error) = entry := by
      simpa [Trial.failure?, given] using failure
    exact ⟨trial.channel, inside, rfl, before, result.symm.trans given⟩

end FeedFolder

/-! ### The main statement -/

/-- **Provenance is certain.** Whatever an endpoint maps, a channel that it decodes has the name
of the engine and the key of the endpoint. So for sources made from settings, with different
names: every merged channel is in the lists of a source, and looking up the source it names finds
the one whose lists it is in; and no run on them reports an unknown source. -/
theorem provenance_certain :
    (∀ (engine : Engine) (modifiers : ModifierSet) (definition : EndpointDefinition)
      (endpoint : Endpoint) (payload : ByteArray) (channels : List Channel),
      Endpoint.compile modifiers definition .channel = .ok endpoint →
      engine.decodeChannels endpoint payload = .ok channels →
      ∀ channel ∈ channels,
        channel.origin.source = engine.name ∧ channel.origin.sourceUrl = endpoint.signature) ∧
    ∀ (roster : Roster) (around : Surroundings) (session : Session),
      (∀ source ∈ roster.sources, source.IsMade) → (roster.sources.map (·.name)).Nodup →
      (∀ channel ∈ ((roster.gather around).run session).1.1.channels,
        (∃ finding ∈ roster.findings around session, finding.Lists channel) ∧
        ∀ finding ∈ roster.findings around session, finding.Lists channel →
          roster.source? channel.origin.source = some finding.source) ∧
      ∀ (folder : FeedFolder) (name : String),
        (outcome (folder.publishAll around roster) session).1 ≠
            .error (.notFound "source" name) ∧
          ∀ report, (outcome (folder.publishAll around roster) session).1 = .ok report →
            ∀ entry ∈ report.failed, entry.2 ≠ .notFound "source" name := by
  refine ⟨fun engine modifiers definition endpoint payload channels compiled decoded =>
    Engine.origin_of_decode compiled decoded, ?_⟩
  intro roster around session made different
  refine ⟨fun channel mem => ⟨Roster.exists_finding mem, fun finding found listed =>
    source?_of_lists made different found listed⟩, fun folder name => ⟨?_, ?_⟩⟩
  · intro failed
    rcases FeedFolder.publishAll_error failed with ⟨cause, same⟩ | ⟨fatal, -⟩
    · simp at same
    · simp [PublishError.isFatal] at fatal
  · intro report done entry mem same
    have run : outcome (folder.publishAll around roster) session = (.ok report, _) :=
      Prod.ext done rfl
    obtain ⟨channel, inside, -, before, failed⟩ := FeedFolder.exists_of_mem_failed run mem
    obtain ⟨finding, found, listed⟩ := Roster.exists_finding inside
    rw [same] at failed
    exact FeedFolder.mergedFeed_ne_unknown (source?_of_lists made different found listed) name
      failed

/-- A series that is merged, and its source. -/
theorem provenance_certain_series :
    let around := FeedFolder.seriesCatalogue [("Krim", "1")]
    (∀ source ∈ FeedFolder.seriesRoster.sources, source.IsMade) ∧
      (FeedFolder.seriesRoster.sources.map (·.name)).Nodup ∧
      ∃ channel ∈ ((FeedFolder.seriesRoster.gather around).run
          ⟨.empty ⟨0, 0⟩, []⟩).1.1.channels,
        ∃ source, FeedFolder.seriesRoster.source? channel.origin.source = some source := by
  intro around
  have made : Source.makeAll FeedFolder.seriesSettings .builtin =
      .ok FeedFolder.seriesRoster.sources :=
    toOption_eq_some_iff.mp (Option.eq_some_of_isSome FeedFolder.seriesSources?_isSome)
  have different : (FeedFolder.seriesRoster.sources.map (·.name)).Nodup := by decide +kernel
  have titles : ((FeedFolder.seriesRoster.gather around).run
      ⟨.empty ⟨0, 0⟩, []⟩).1.1.channels.map (·.title) = ["Krim"] := by decide +kernel
  obtain ⟨channel, mem, -⟩ := List.mem_map.mp (titles ▸ List.mem_cons_self (a := "Krim"))
  have isMade := Source.isMade_of_makeAll made
  obtain ⟨merged, -⟩ := provenance_certain.2 FeedFolder.seriesRoster around _ isMade different
  obtain ⟨⟨finding, found, listed⟩, only⟩ := merged channel mem
  exact ⟨isMade, different, channel, mem, finding.source, only finding found listed⟩

end CatalogFeeds
