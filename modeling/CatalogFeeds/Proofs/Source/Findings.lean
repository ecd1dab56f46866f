import CatalogFeeds.Proofs.Engine.Reference
import CatalogFeeds.Proofs.Record.ChannelBatch
import CatalogFeeds.Proofs.Source.Isolation
import CatalogFeeds.Source.Roster
import Mathlib.Data.List.Nodup
/-!
What sources have given, and what is merged of it.

Sources are asked one after another, and each is asked for its listings one after another. What
each of them gives is kept here beside the source (`Roster.findings`).

* `decodes_of_mem_lists` — every list is what a listing of the source decodes to.
* `gather_channels` — the merged channels come from the findings.
* `source?_of_mem` — sources with different names are found by their names.
-/

namespace CatalogFeeds

open RunM

/-! ### What a source gives -/

namespace Source

variable {source : Source} {around : Surroundings} {session : Session}

/-- The listings of a source have been compiled by its engine. -/
theorem compiled_of_make {settings : SourceSettings} {ttl : Time.Duration}
    {modifiers : ModifierSet} (h : make settings ttl modifiers = .ok source) :
    ∀ listing ∈ source.listings,
      ∃ definition, source.engine.compile definition .channel = .ok listing.endpoint := by
  obtain ⟨-, compiled, -⟩ := of_make h
  intro listing mem
  obtain ⟨settings, -, made⟩ := exists_of_mem_mapM compiled mem
  obtain ⟨endpoint, made, same⟩ := bind_eq_ok_iff.mp made
  exact ⟨settings.endpoint, Except.ok.inj same ▸ made⟩

theorem channelsFrom_decodes {endpoint : Endpoint} {params : Params} {start : String}
    {batch : ChannelBatch}
    (h : ((source.channelsFrom around endpoint params start).outcome session).1 = .ok batch) :
    source.engine.decodeChannels endpoint batch.raw = .ok batch.channels := by
  rw [channelsFrom, outcome_bind_pure, map_eq_ok_iff] at h
  obtain ⟨harvest, ran, rfl⟩ := h
  exact source.engine.run_decodes around endpoint Channel.read params start session ran

theorem mem_lists_addResult {result : Except EndpointError ChannelBatch} {collected : Collected}
    {batch : ChannelBatch} :
    batch ∈ (addResult result collected).lists ↔
      result = .ok batch ∨ batch ∈ collected.lists := by
  cases result <;> simp [addResult, eq_comm]

/-- **Where lists come from**: each of them is what one of the listings decodes to. -/
theorem decodes_of_mem_lists {listings : List Listing} {batch : ChannelBatch}
    (mem : batch ∈ ((source.collectFrom around listings).run session).1.lists) :
    ∃ listing ∈ listings,
      source.engine.decodeChannels listing.endpoint batch.raw = .ok batch.channels := by
  induction listings generalizing session with
  | nil => exact absurd mem List.not_mem_nil
  | cons listing rest ih =>
    rw [collectFrom_cons] at mem
    rcases mem_lists_addResult.mp mem with first | later
    · exact ⟨listing, List.mem_cons_self, channelsFrom_decodes first⟩
    · obtain ⟨other, inside, decoded⟩ := ih later
      exact ⟨other, List.mem_cons_of_mem listing inside, decoded⟩

end Source

/-! ### What all sources give -/

/-- What a source has given. -/
structure Finding where
  source : Source
  collected : Collected

/-- Whether a channel is in one of the lists of a source. -/
def Finding.Lists (finding : Finding) (channel : Channel) : Prop :=
  ∃ list ∈ finding.collected.lists, channel ∈ list.channels

namespace Roster

variable {roster : Roster} {around : Surroundings} {session : Session}

/-- What sources give one after another. -/
def findingsOf (around : Surroundings) : List Source → Session → List Finding
  | [], _ => []
  | source :: rest, session =>
    let given := (source.collect around).run session
    ⟨source, given.1⟩ :: findingsOf around rest given.2

/-- What the sources of a roster give. -/
def findings (roster : Roster) (around : Surroundings) (session : Session) : List Finding :=
  findingsOf around roster.sources session

theorem collectAll_eq (sources : List Source) (session : Session) :
    ((collectAll around sources).run session).1 =
      (findingsOf around sources session).map fun finding =>
        (finding.source.name, finding.collected) := by
  induction sources generalizing session with
  | nil => rfl
  | cons source rest ih =>
    rw [findingsOf, List.map_cons, ← ih]
    rfl

/-- The merged channels are merged from the lists of all sources. -/
theorem gather_channels (roster : Roster) (around : Surroundings) (session : Session) :
    ((roster.gather around).run session).1.1 =
      .merge ((roster.findings around session).flatMap (·.collected.lists)) := by
  have merged : ((roster.gather around).run session).1.1 =
      .merge (((collectAll around roster.sources).run session).1.flatMap (·.2.lists)) := rfl
  rw [merged, collectAll_eq, List.flatMap_map, findings]

theorem exists_finding {channel : Channel}
    (mem : channel ∈ ((roster.gather around).run session).1.1.channels) :
    ∃ finding ∈ roster.findings around session, finding.Lists channel := by
  rw [gather_channels, ChannelBatch.merge_channels] at mem
  have listed := (firsts_sublist _).subset mem
  simp only [List.mem_flatMap] at listed
  obtain ⟨list, ⟨finding, inside, given⟩, mem⟩ := listed
  exact ⟨finding, inside, list, given, mem⟩

/-- Each finding is of one of the sources, at some point of the run. -/
theorem exists_of_mem_findings {sources : List Source} {finding : Finding}
    (mem : finding ∈ findingsOf around sources session) :
    finding.source ∈ sources ∧
      ∃ before, finding.collected = ((finding.source.collect around).run before).1 := by
  induction sources generalizing session with
  | nil => simp [findingsOf] at mem
  | cons source rest ih =>
    rw [findingsOf] at mem
    rcases List.mem_cons.mp mem with rfl | later
    · exact ⟨List.mem_cons_self, session, rfl⟩
    · obtain ⟨inside, collected⟩ := ih later
      exact ⟨List.mem_cons_of_mem source inside, collected⟩

/-- **Sources with different names are found by their names.** -/
theorem source?_of_mem (different : (roster.sources.map (·.name)).Nodup) {source : Source}
    (mem : source ∈ roster.sources) : roster.source? source.name = some source := by
  obtain ⟨found, named⟩ : ∃ found, roster.source? source.name = some found :=
    Option.isSome_iff_exists.mp (List.find?_isSome.mpr ⟨source, mem, beq_self_eq_true _⟩)
  have same : found.name = source.name := by
    have sameName := List.find?_some named
    exact beq_iff_eq.mp sameName
  rw [named, List.inj_on_of_nodup_map different (List.mem_of_find?_eq_some named) mem same]

end Roster

end CatalogFeeds
