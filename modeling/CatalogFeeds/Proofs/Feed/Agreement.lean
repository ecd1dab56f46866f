import CatalogFeeds.Proofs.Feed.Provenance
import CatalogFeeds.Proofs.Source.Uncached
/-!
The feed of a merged channel and the feed of the same channel of its source.

A channel may be asked for by its source and id: the source is asked for all its channels, and the
first one with the id is the one that is meant. A run on all sources gives the feeds of the merged
channels. A merged channel is the first with its id in the lists of all sources, and it names the
source that has it there; so both mean the same channel.

* `source?_find?_of_merged` — a merged channel is the first with its id in the lists of the source
  that it names.
* `feedById_uncached`, `mergedFeed_uncached` — both feeds show a channel with what its source
  answers about the episodes.
* `feeds_agree` — both feeds are the same.
-/

namespace CatalogFeeds

open CatalogFeeds.Time PublishM

variable {upstream : Transport} {now : Instant} {roster : Roster} {session : Session}

/-- **A merged channel in its source.** -/
theorem source?_find?_of_merged (made : ∀ source ∈ roster.sources, source.IsMade)
    (different : (roster.sources.map (·.name)).Nodup) {channel : Channel}
    (mem : channel ∈
      ((roster.gather (.uncached upstream now)).run session).1.1.channels)
    (filled : channel.origin.id ≠ "") :
    ∃ source, roster.source? channel.origin.source = some source ∧
      ((source.yield (.uncached upstream now)).lists.flatMap (·.channels)).find?
        (·.origin.id == channel.origin.id) = some channel := by
  rw [Roster.gather_channels, ChannelBatch.merge_channels, List.flatMap_assoc] at mem
  have first := find?_of_mem_firsts mem filled
  rw [List.find?_flatMap, List.findSome?_eq_some_iff] at first
  obtain ⟨earlier, finding, later, split, first, -⟩ := first
  have found : finding ∈ roster.findings (.uncached upstream now) session := by
    rw [split]
    exact List.mem_append_right earlier List.mem_cons_self
  have listed : finding.Lists channel := List.mem_flatMap.mp (List.mem_of_find?_eq_some first)
  refine ⟨finding.source, source?_of_lists made different found listed, ?_⟩
  obtain ⟨-, before, collected⟩ := Roster.exists_of_mem_findings found
  rw [collected, Source.collect_uncached] at first
  exact first

namespace FeedFolder

variable (folder : FeedFolder) {source : Source} {channel : Channel}

theorem mergedFeed_uncached (known : roster.source? channel.origin.source = some source)
    (filled : channel.origin.id ≠ "") (session session' : Session) :
    (outcome (folder.mergedFeed (.uncached upstream now) roster channel) session).1 =
      folder.feedFrom channel
        ((source.episodesOf (.uncached upstream now) channel.origin.id).outcome session').1 := by
  rw [mergedFeed_outcome, if_neg (by simpa using filled), known]
  simp only
  rw [source.episodesOf_uncached channel.origin.id session session']

theorem feedById_uncached {name id : String} (known : roster.source? name = some source)
    (first : ((source.yield (.uncached upstream now)).lists.flatMap (·.channels)).find?
      (·.origin.id == id) = some channel) (session session' : Session) :
    (outcome (folder.feedById (.uncached upstream now) roster name id) session).1 =
      folder.feedFrom channel
        ((source.episodesOf (.uncached upstream now) channel.origin.id).outcome session').1 := by
  rw [feedById_outcome, known]
  simp only [source.collect_uncached, first]
  rw [source.episodesOf_uncached channel.origin.id _ session']

/-! ### The main statement -/

/-- **Both feeds are the same**, or fail alike. Without a cache, and with sources made from
settings that have different names, a merged channel with an id has the feed that its source and
id have, whenever either is asked for; and so has each channel that a run on all sources tries. -/
theorem feeds_agree (folder : FeedFolder) (roster : Roster) (upstream : Transport) (now : Instant)
    (made : ∀ source ∈ roster.sources, source.IsMade)
    (different : (roster.sources.map (·.name)).Nodup) (session : Session) :
    let around := Surroundings.uncached upstream now
    let feedOf (channel : Channel) (before : Session) :=
      (outcome (folder.feedById around roster channel.origin.source channel.origin.id) before).1
    (∀ channel ∈ ((roster.gather around).run session).1.1.channels, channel.origin.id ≠ "" →
      ∀ before before',
        feedOf channel before = (outcome (folder.mergedFeed around roster channel) before').1) ∧
    ∀ trial ∈ folder.allTrials around roster session, trial.channel.origin.id ≠ "" →
      ∀ before, feedOf trial.channel before = trial.result := by
  intro around feedOf
  have agree (session : Session) : ∀ channel ∈ ((roster.gather around).run session).1.1.channels,
      channel.origin.id ≠ "" → ∀ before before',
        feedOf channel before = (outcome (folder.mergedFeed around roster channel) before').1 := by
    intro channel mem filled before before'
    obtain ⟨source, known, first⟩ := source?_find?_of_merged made different mem filled
    rw [folder.mergedFeed_uncached known filled before' before]
    exact folder.feedById_uncached known first before before
  refine ⟨agree session, fun trial tried filled before => ?_⟩
  obtain ⟨mem, -, before', result⟩ := exists_of_mem_trials tried
  rw [result]
  exact agree _ trial.channel mem filled before before'

/-- Of two series with one id the first is merged, and has the feed of that id, which is also what
a run tries. -/
theorem feeds_agree_repeated :
    let around :=
      Surroundings.uncached (seriesCatalogue [("Krim", "1"), ("Kaffe", "1")]).transport ⟨0, 0⟩
    let start : Session := ⟨.empty ⟨0, 0⟩, []⟩
    let ofId (channel : Channel) :=
      (outcome (seriesFolder.feedById around seriesRoster channel.origin.source "1") start).1
    (∀ source ∈ seriesRoster.sources, source.IsMade) ∧
      (seriesRoster.sources.map (·.name)).Nodup ∧
      (∃ channel ∈ ((seriesRoster.gather around).run start).1.1.channels, channel.title = "Krim" ∧
        ofId channel = (outcome (seriesFolder.mergedFeed around seriesRoster channel) start).1) ∧
      ∃ trial ∈ seriesFolder.allTrials around seriesRoster start,
        ofId trial.channel = trial.result := by
  intro around start ofId
  have made : Source.makeAll seriesSettings .builtin = .ok seriesRoster.sources :=
    toOption_eq_some_iff.mp (Option.eq_some_of_isSome seriesSources?_isSome)
  have isMade := Source.isMade_of_makeAll made
  have different : (seriesRoster.sources.map (·.name)).Nodup := by decide +kernel
  have merged : ((seriesRoster.gather around).run start).1.1.channels.map
      (fun channel => (channel.title, channel.origin.id)) = [("Krim", "1")] := by decide +kernel
  have tried : (seriesFolder.allTrials around seriesRoster start).map (·.channel.origin.id) =
      ["1"] := by decide +kernel
  obtain ⟨channel, mem, named⟩ := List.mem_map.mp (merged ▸ List.mem_cons_self (a := ("Krim", "1")))
  obtain ⟨title, id⟩ := Prod.mk.inj named
  obtain ⟨trial, inside, id'⟩ := List.mem_map.mp (tried ▸ List.mem_cons_self (a := "1"))
  obtain ⟨agree, agree'⟩ := feeds_agree seriesFolder seriesRoster
    (seriesCatalogue [("Krim", "1"), ("Kaffe", "1")]).transport ⟨0, 0⟩ isMade different start
  have same := agree channel mem (by simp [id]) start start
  have same' := agree' trial inside (by simp [id']) start
  simp only [id, id'] at same same'
  exact ⟨isMade, different, ⟨channel, mem, title, same⟩, trial, inside, same'⟩

end FeedFolder

end CatalogFeeds
