import CatalogFeeds.Proofs.Feed.Trials
import CatalogFeeds.Settings.Basic
/-!
The files that a run leaves.

Every channel with a feed gets a path, but not always one of its own: the name that tells a
channel apart by its id is given out without a look at whether it is taken.

* `feeds_follow_names` — what a run writes, when the paths are different, and which feeds are
  found in their files afterwards.
* `feeds_collide` — in general one feed overwrites another, for sources of valid settings too.
-/

namespace CatalogFeeds.FeedFolder

open PublishM Trial

variable {folder : FeedFolder} {around : Surroundings} {roster : Roster} {channels : List Channel}
  {report result : FolderReport} {session after : Session}

/-- A feed that no later one goes over is found in its file after the run. -/
theorem fileAt?_of_published (apart : folder.IsApart around roster)
    (h : outcome (folder.publishEach around roster channels report) session =
      (.ok result, after)) {front back : List Trial} {trial : Trial} {feed : String}
    (split : published (folder.trials around roster channels report session) =
      front ++ trial :: back)
    (made : trial.result = .ok feed) (last : trial.path ∉ back.map (·.path)) :
    after.files.fileAt? (FilePath.place trial.path) = some (feed.toUTF8, around.now) := by
  obtain ⟨before, rest, parts, -, others⟩ := List.filter_eq_append_iff.mp split
  obtain ⟨skipped, later, rfl, -, -, behind⟩ := List.filter_eq_cons_iff.mp others
  rw [← List.append_assoc] at parts
  refine fileAt?_of_trials apart h parts made fun other mem same => last ?_
  rw [published, behind] at mem
  exact same ▸ List.mem_map_of_mem mem

theorem filled_of_published {trial : Trial}
    (mem : trial ∈ published (folder.trials around roster channels report session)) :
    trial.channel.origin.id ≠ "" := by
  obtain ⟨tried, feed, made⟩ := mem_published.mp mem
  obtain ⟨-, -, before, result⟩ := exists_of_mem_trials tried
  exact (mergedFeed_ok (result.symm.trans made)).1

/-- **What a run writes.** For a run that comes to its end: it reports the paths that the channels
with a feed get one after another. These are different exactly if no channel finds the names of
its title and of its id both taken, as is the case if no name with an id is also the name of a
channel before. Each feed shows a merged channel with the episodes that its source lists; and
unless a source keeps its payloads there too, the directory holds under each path the last feed
that was written to it, and hence every feed if the paths are different. -/
theorem feeds_follow_names
    (h : outcome (folder.publishAll around roster) session = (.ok report, after)) :
    let feeds := published (folder.allTrials around roster session)
    report.written = feeds.map (·.path) ∧
    report.written = folder.paths (feeds.map (·.channel)) ∧
    (report.written.Nodup ↔ ∀ front channel back,
      feeds.map (·.channel) = front ++ channel :: back →
      ¬ (folder.titlePath channel ∈ folder.paths front ∧
        folder.idPath channel ∈ folder.paths front)) ∧
    ((feeds.map (·.channel)).Pairwise (fun before later =>
      idName later ≠ titleName before ∧ idName later ≠ idName before) → report.written.Nodup) ∧
    (∀ trial ∈ feeds,
      trial.channel ∈ (folder.gathered around roster session).1.1.channels ∧
      ∃ source harvest feed between, roster.source? trial.channel.origin.source = some source ∧
        ((source.episodesOf around trial.channel.origin.id).outcome between).1 = .ok harvest ∧
        Feed.render folder.settings trial.channel harvest.records = .ok feed ∧
        trial.result = .ok feed) ∧
    (folder.IsApart around roster →
      (∀ front trial back feed, feeds = front ++ trial :: back → trial.result = .ok feed →
        trial.path ∉ back.map (·.path) →
        after.files.fileAt? (FilePath.place trial.path) = some (feed.toUTF8, around.now)) ∧
      (report.written.Nodup → ∀ trial ∈ feeds, ∀ feed, trial.result = .ok feed →
        after.files.fileAt? (FilePath.place trial.path) = some (feed.toUTF8, around.now))) := by
  intro feeds
  have run := publishAll_ok h
  have written : report.written = feeds.map (·.path) := (report_of_trials run).2.1
  have paths : report.written = folder.paths (feeds.map (·.channel)) :=
    written.trans (paths_of_trials run)
  have filled : ∀ channel ∈ feeds.map (·.channel), channel.origin.id ≠ "" := by
    intro channel mem
    obtain ⟨trial, inside, rfl⟩ := List.mem_map.mp mem
    exact filled_of_published inside
  refine ⟨written, paths, ?_, ?_, ?_, fun apart => ⟨?_, ?_⟩⟩
  · rw [paths]
    exact nodup_paths_iff filled
  · rw [paths]
    exact nodup_paths_of_pairwise filled
  · intro trial mem
    obtain ⟨tried, feed, made⟩ := mem_published.mp mem
    obtain ⟨inside, -, before, result⟩ := exists_of_mem_trials tried
    obtain ⟨-, source, found, harvest, listed, rendered⟩ := mergedFeed_ok (result.symm.trans made)
    exact ⟨inside, source, harvest, feed, before, found, listed, rendered, made⟩
  · intro front trial back feed split made last
    exact fileAt?_of_published apart run split made last
  · intro different trial mem feed made
    obtain ⟨front, back, split⟩ := List.append_of_mem mem
    refine fileAt?_of_published apart run split made fun again => ?_
    rw [written, split, List.map_append, List.map_cons] at different
    exact (List.nodup_cons.mp (List.nodup_append.mp different).2.1).1 again

/-! ### A catalogue of series -/

/-- Settings with one source, which lists all series and the episodes of each. -/
def seriesSettings : Settings where
  sources := [{
    name := "s"
    baseUrl := some "http://h/"
    channelListings := [{
      name := "all"
      endpoint := { path := "c", mapping := [("Title", "t"), ("_meta.id", "i")] } }]
    episodeListing := some { path := "e", mapping := [("Title", "t")] } }]

/-- The sources of these settings, if they can be made. -/
def seriesSources? : Option (List Source) :=
  (Source.makeAll seriesSettings .builtin).toOption

theorem seriesSources?_isSome : seriesSources?.isSome = true := by
  decide +kernel

/-- These sources. -/
def seriesRoster : Roster :=
  ⟨seriesSources?.get seriesSources?_isSome⟩

/-- What a catalogue answers that has series with these titles and ids. -/
def seriesPayload (series : List (String × String)) : Json :=
  .array <| series.map fun (title, id) => .ofEntries [("t", .string title), ("i", .string id)]

/-- A cache, a clock, and a catalogue that lists the given series and no episodes. -/
def seriesCatalogue (series : List (String × String)) : Surroundings where
  transport request :=
    .ok ⟨200, (seriesPayload (if request.url.path.text == "/c" then series else [])).render.toUTF8⟩
  cache := some ⟨"c", ["c"]⟩
  now := ⟨0, 0⟩

/-- A folder for feeds beside the cache. -/
def seriesFolder : FeedFolder :=
  ⟨{}, "f"⟩

/-- A run on an empty file tree. -/
def seriesRun (series : List (String × String)) : Except PublishError FolderReport × Session :=
  outcome (seriesFolder.publishAll (seriesCatalogue series) seriesRoster) ⟨.empty ⟨0, 0⟩, []⟩

variable {series : List (String × String)}

theorem isApart_series : seriesFolder.IsApart (seriesCatalogue series) seriesRoster := by
  intro cache used source _ same
  have place : FilePath.place seriesFolder.directory = ["f"] := by decide
  obtain rfl : (⟨"c", ["c"]⟩ : PayloadStore) = cache := Option.some.inj used
  rw [place] at same
  simpa using congrArg List.length same

theorem exists_report {written : List String}
    (h : (seriesRun series).1.toOption.map (·.written) = some written) :
    ∃ report after, seriesRun series = (.ok report, after) ∧ report.written = written := by
  obtain ⟨report, done, same⟩ := Option.map_eq_some_iff.mp h
  exact ⟨report, _, Prod.ext (toOption_eq_some_iff.mp done) rfl, same⟩

/-- Two series of the same title get files of their own. -/
theorem feeds_follow_names_same_title :
    let series := [("Krim", "1"), ("Krim", "2")]
    ∃ report after, seriesRun series = (.ok report, after) ∧
      report.written = ["f/Krim.xml", "f/Krim-2.xml"] ∧
      ∀ trial ∈ published (seriesFolder.allTrials (seriesCatalogue series) seriesRoster
          ⟨.empty ⟨0, 0⟩, []⟩),
        ∀ feed, trial.result = .ok feed →
          after.files.fileAt? (FilePath.place trial.path) = some (feed.toUTF8, ⟨0, 0⟩) := by
  intro series
  obtain ⟨report, after, run, written⟩ : ∃ report after, seriesRun series = (.ok report, after) ∧
      report.written = ["f/Krim.xml", "f/Krim-2.xml"] := exists_report (by decide +kernel)
  have different : report.written.Nodup := by
    rw [written]
    decide
  obtain ⟨-, -, -, -, -, found⟩ := feeds_follow_names run
  exact ⟨report, after, run, written, (found isApart_series).2 different⟩

/-- **Feeds collide**: a run on the sources of valid settings may write two feeds to one path. The
title of the first series here is the name that tells the third from the second. -/
theorem feeds_collide :
    ¬ ∀ (settings : Settings) (modifiers : ModifierSet) (sources : List Source)
      (folder : FeedFolder) (around : Surroundings) (session after : Session)
      (report : FolderReport),
      settings.validate = .ok () → Source.makeAll settings modifiers = .ok sources →
      outcome (folder.publishAll around ⟨sources⟩) session = (.ok report, after) →
      report.written.Nodup := by
  intro different
  have valid : seriesSettings.validate = .ok () := toOption_eq_some_iff.mp (by decide +kernel)
  have made : Source.makeAll seriesSettings .builtin = .ok seriesRoster.sources :=
    toOption_eq_some_iff.mp (Option.eq_some_of_isSome seriesSources?_isSome)
  let series := [("Krim-2", "1"), ("Krim", "3"), ("Krim", "2")]
  obtain ⟨report, after, run, written⟩ : ∃ report after, seriesRun series = (.ok report, after) ∧
      report.written = ["f/Krim-2.xml", "f/Krim.xml", "f/Krim-2.xml"] :=
    exists_report (by decide +kernel)
  have none := different seriesSettings .builtin seriesRoster.sources seriesFolder
    (seriesCatalogue series) _ after report valid made run
  rw [written] at none
  exact absurd none (by decide)

end CatalogFeeds.FeedFolder
