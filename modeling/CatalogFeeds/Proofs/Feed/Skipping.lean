import CatalogFeeds.Proofs.Feed.Agreement
import CatalogFeeds.Proofs.Feed.Dates
import CatalogFeeds.Proofs.Source.Failures
/-!
Channels that are left out.

A channel that has no feed is left out of a run. Without a cache nothing else comes of it: it
takes no name and no file, and since catalogues answer equal requests alike, the channels after it
get the answers that they would have got without it. So a run does what it would have done with the
other channels alone, and each channel has a feed, or has none, whatever the others are.

* `mergedFeed_alone`, `files_mergedFeed` — the feed of a channel is the same on every session, and
  asking for it changes no file.
* `publishEach_filter` — a run on the channels that have a feed writes the same files.
* `leftOutFor_of_feedAlone`, `exists_leftOutFor_iff` — why a channel has none, and which have none.
* `failures_skipped` — what is written and what is reported of the merged channels.
-/

namespace CatalogFeeds

open CatalogFeeds.Time PublishM Trial

variable {upstream : Transport} {now : Instant}

/-! ### Asking for a feed without a cache -/

/-- A run without a cache changes no file. -/
theorem Engine.files_run_uncached {α : Type} (engine : Engine) (endpoint : Endpoint)
    (read : Json → Except ShapeError α) (params : Params) (start : String) (session : Session) :
    ((engine.run (.uncached upstream now) endpoint read params start).outcome session).2.files =
      session.files := by
  have bare : Surroundings.uncached upstream now =
      { Surroundings.uncached upstream now with cache := none } := rfl
  rw [bare, run_bare_outcome]
  rcases engine.exchange _ endpoint params with ⟨sent, error | body⟩ <;> rfl

theorem Source.files_episodesOf_uncached (source : Source) (id : String) (session : Session) :
    ((source.episodesOf (.uncached upstream now) id).outcome session).2.files = session.files := by
  cases offered : source.episodeListing with
  | none => simp only [episodesOf, offered, RunM.outcome_throw]
  | some endpoint =>
    simp only [episodesOf, offered]
    exact source.engine.files_run_uncached endpoint Episode.read _ _ session

namespace FeedFolder

variable (folder : FeedFolder) (roster : Roster) {channel : Channel} {channels : List Channel}
  {report result : FolderReport} {session session' after : Session}

/-- The feed of a channel when nothing else is asked for, or why there is none. -/
def feedAlone (around : Surroundings) (channel : Channel) : Except PublishError String :=
  (outcome (folder.mergedFeed around roster channel) { files := .empty around.now }).1

/-- **Asking for a feed without a cache** gives the same on every session. -/
theorem mergedFeed_alone (channel : Channel) (session : Session) :
    (outcome (folder.mergedFeed (.uncached upstream now) roster channel) session).1 =
      folder.feedAlone roster (.uncached upstream now) channel := by
  rw [feedAlone]
  by_cases filled : channel.origin.id = ""
  · simp [mergedFeed_outcome, filled]
  · cases known : roster.source? channel.origin.source with
    | none => simp [mergedFeed_outcome, filled, known]
    | some source =>
      rw [folder.mergedFeed_uncached known filled session session,
        folder.mergedFeed_uncached known filled _ session]

theorem files_mergedFeed (channel : Channel) (session : Session) :
    (outcome (folder.mergedFeed (.uncached upstream now) roster channel) session).2.files =
      session.files := by
  rw [mergedFeed_outcome]
  split
  · rfl
  · split
    · rfl
    · rename_i source _
      exact source.files_episodesOf_uncached channel.origin.id session

/-! ### Runs on the other channels -/

variable {folder roster}

/-- Whether a channel has a feed when nothing else is asked for. -/
def HasFeed (folder : FeedFolder) (roster : Roster) (around : Surroundings) (channel : Channel) :
    Bool :=
  (folder.feedAlone roster around channel).isOk

/-- **A channel that is written** is written in the same way on every session with the same files,
whatever has been left out. -/
theorem publish_of_files {feed : String} {asked : Session} {files : FileTree}
    (made : outcome (folder.mergedFeed (.uncached upstream now) roster channel) session =
      (.ok feed, asked))
    (written : asked.files.writeFile now feed.toUTF8
      (FilePath.place (folder.filePathFor channel report.written)) = .ok files)
    (same : session'.files = session.files) (failed : List (String × PublishError)) :
    ∃ after, outcome (folder.publish (.uncached upstream now) roster { report with failed } channel)
        session' =
      (.ok { report with
        written := report.written ++ [folder.filePathFor channel report.written], failed }, after) ∧
      after.files = files := by
  have kept : asked.files = session.files := by
    rw [← folder.files_mergedFeed roster channel session, made]
  have made' : (outcome (folder.mergedFeed (.uncached upstream now) roster channel) session').1 =
      .ok feed := by
    rw [folder.mergedFeed_alone, ← folder.mergedFeed_alone roster channel session, made]
  have kept' :
      (outcome (folder.mergedFeed (.uncached upstream now) roster channel) session').2.files =
        session'.files := folder.files_mergedFeed roster channel session'
  rcases asked' : outcome (folder.mergedFeed (.uncached upstream now) roster channel) session' with
    ⟨given, between⟩
  rw [asked'] at made' kept'
  obtain rfl : given = .ok feed := made'
  rw [kept, ← same, ← kept'] at written
  refine ⟨{ between with files }, ?_, rfl⟩
  rw [publish_outcome, asked']
  simp only [Surroundings.uncached, written]

/-- **A run on the channels that have a feed** writes what the run on all channels does. -/
theorem publishEach_filter
    (h : outcome (folder.publishEach (.uncached upstream now) roster channels report) session =
      (.ok result, after)) (same : session'.files = session.files)
    (failed : List (String × PublishError)) :
    ∃ after', outcome (folder.publishEach (.uncached upstream now) roster
        (channels.filter (folder.HasFeed roster (.uncached upstream now))) { report with failed })
        session' = (.ok { result with failed }, after') ∧ after'.files = after.files := by
  induction channels generalizing report session session' with
  | nil =>
    obtain ⟨rfl, rfl⟩ := by simpa [publishEach] using h
    exact ⟨session', rfl, same⟩
  | cons channel channels ih =>
    obtain ⟨next, between, step, rest, -⟩ := publishEach_cons_ok h
    have alone : _ = folder.feedAlone roster (.uncached upstream now) channel :=
      folder.mergedFeed_alone roster channel session
    rcases publish_ok step with
      ⟨feed, asked, files, made, written, rfl, rfl⟩ | ⟨error, made, -, rfl⟩
    · have has : folder.HasFeed roster (.uncached upstream now) channel = true := by
        rw [HasFeed, ← alone, made]
        rfl
      obtain ⟨between', step', kept⟩ := publish_of_files made written same failed
      obtain ⟨after', rest', files'⟩ := ih rest kept
      refine ⟨after', ?_, files'⟩
      rw [List.filter_cons_of_pos has, publishEach_cons, step']
      exact rest'
    · have lacks : ¬ folder.HasFeed roster (.uncached upstream now) channel = true := by
        rw [HasFeed, ← alone, made]
        exact Bool.false_ne_true
      have kept : between.files = session.files := by
        rw [← folder.files_mergedFeed roster channel session, made]
      obtain ⟨after', rest', files'⟩ := ih rest (same.trans kept.symm)
      rw [List.filter_cons_of_neg lacks]
      exact ⟨after', rest', files'⟩

/-! ### Which channels have a feed -/

/-- In a run that comes to its end no feed fails fatally. -/
theorem not_isFatal_of_publishEach
    (h : outcome (folder.publishEach (.uncached upstream now) roster channels report) session =
      (.ok result, after)) (mem : channel ∈ channels) {error : PublishError}
    (failed : folder.feedAlone roster (.uncached upstream now) channel = .error error) :
    error.isFatal = false := by
  induction channels generalizing report session with
  | nil => simp at mem
  | cons first channels ih =>
    obtain ⟨next, between, step, rest, -⟩ := publishEach_cons_ok h
    rcases List.mem_cons.mp mem with rfl | later
    · rw [← folder.mergedFeed_alone roster channel session] at failed
      rcases publish_ok step with ⟨feed, _, _, made, -⟩ | ⟨found, made, mild, -⟩
      · simp [made] at failed
      · rw [made] at failed
        exact Except.error.inj failed ▸ mild
    · exact ih rest later

/-- Every trial of a run without a cache gives what the channel gives alone. -/
theorem result_of_mem_trials {trial : Trial}
    (mem : trial ∈ folder.trials (.uncached upstream now) roster channels report session) :
    trial.result = folder.feedAlone roster (.uncached upstream now) trial.channel := by
  obtain ⟨-, -, before, result⟩ := exists_of_mem_trials mem
  rw [result, mergedFeed_alone]

end FeedFolder

/-- Whether the source that a channel names fails to list its episodes, whenever it is asked. -/
def FailsToList (roster : Roster) (around : Surroundings) (channel : Channel) : Prop :=
  ∃ source cause, roster.source? channel.origin.source = some source ∧
    ∀ before, ((source.episodesOf around channel.origin.id).outcome before).1 = .error cause

/-- Why a channel is left out: it has no id, its source fails to list the episodes, or it has no
title. -/
inductive LeftOutFor (roster : Roster) (around : Surroundings) (channel : Channel) :
    PublishError → Prop
  | noId (empty : channel.origin.id = "") :
    LeftOutFor roster around channel (.notFound "channel id" channel.title)
  | noEpisodes {source : Source} {cause : EndpointError} (filled : channel.origin.id ≠ "")
    (known : roster.source? channel.origin.source = some source)
    (fails : ∀ before,
      ((source.episodesOf around channel.origin.id).outcome before).1 = .error cause) :
    LeftOutFor roster around channel (.endpoint cause)
  | noTitle {source : Source} {harvest : Harvest Episode} (filled : channel.origin.id ≠ "")
    (known : roster.source? channel.origin.source = some source)
    (lists : ∀ before,
      ((source.episodesOf around channel.origin.id).outcome before).1 = .ok harvest)
    (blank : isBlankText channel.title = true) :
    LeftOutFor roster around channel (.feed (.noTitle channel.origin.id))

/-- A merged channel names a source, if the sources have been made from settings. -/
theorem Roster.exists_source?_of_merged {roster : Roster} {around : Surroundings}
    {session : Session} (made : ∀ source ∈ roster.sources, source.IsMade) {channel : Channel}
    (mem : channel ∈ ((roster.gather around).run session).1.1.channels) :
    ∃ source, roster.source? channel.origin.source = some source := by
  obtain ⟨finding, found, listed⟩ := exists_finding mem
  obtain ⟨inside, -⟩ := exists_of_mem_findings found
  obtain ⟨named, -⟩ := Finding.origin_of_lists found (made _ inside) listed
  exact Option.isSome_iff_exists.mp
    (List.find?_isSome.mpr ⟨finding.source, inside, beq_iff_eq.mpr named.symm⟩)

namespace FeedFolder

variable {folder : FeedFolder} {roster : Roster} {channel : Channel} {error : PublishError}

theorem feedAlone_of_leftOutFor
    (h : LeftOutFor roster (.uncached upstream now) channel error) :
    folder.feedAlone roster (.uncached upstream now) channel = .error error := by
  cases h with
  | noId empty => simp [feedAlone, mergedFeed_outcome, empty]
  | noEpisodes filled known fails =>
    rw [feedAlone, mergedFeed_uncached folder known filled _ ⟨.empty now, []⟩, fails]
    rfl
  | noTitle filled known lists blank =>
    rw [feedAlone, mergedFeed_uncached folder known filled _ ⟨.empty now, []⟩, lists, feedFrom,
      Feed.render_of_blank _ _ _ blank]
    rfl

/-- **Why a channel has no feed** that names a source, unless it is for a date. -/
theorem leftOutFor_of_feedAlone {source : Source}
    (known : roster.source? channel.origin.source = some source) (mild : error.isFatal = false)
    (h : folder.feedAlone roster (.uncached upstream now) channel = .error error) :
    LeftOutFor roster (.uncached upstream now) channel error := by
  rcases mergedFeed_cases h with ⟨empty, same⟩ | ⟨unknown, -⟩ | ⟨filled, source, known, listing⟩
  · obtain rfl := Except.error.inj same
    exact .noId empty
  · rw [known] at unknown
    contradiction
  · rcases listing with ⟨cause, fails, same⟩ | ⟨harvest, lists, same⟩
    · obtain rfl := Except.error.inj same
      exact .noEpisodes filled known fun before =>
        (source.episodesOf_uncached channel.origin.id before _).trans fails
    · cases titled : isBlankText channel.title with
      | true =>
        rw [Feed.render_of_blank _ _ _ titled] at same
        obtain rfl := Except.error.inj same
        exact .noTitle filled known (fun before =>
          (source.episodesOf_uncached channel.origin.id before _).trans lists) titled
      | false =>
        cases rendered : Feed.render folder.settings channel harvest.records with
        | ok feed => simp [rendered, Except.mapError] at same
        | error cause =>
          have dated := Feed.render_dated folder.settings channel harvest.records titled
          obtain ⟨-, rfl⟩ := (dated.error_iff cause).mp rendered
          rw [rendered] at same
          obtain rfl := Except.error.inj same
          simp [PublishError.isFatal] at mild

theorem exists_leftOutFor_iff {source : Source}
    (known : roster.source? channel.origin.source = some source) :
    (∃ error, LeftOutFor roster (.uncached upstream now) channel error) ↔
      channel.origin.id = "" ∨ FailsToList roster (.uncached upstream now) channel ∨
        isBlankText channel.title = true := by
  constructor
  · rintro ⟨error, empty | ⟨-, known, fails⟩ | ⟨-, -, -, blank⟩⟩
    · exact .inl empty
    · exact .inr (.inl ⟨_, _, known, fails⟩)
    · exact .inr (.inr blank)
  · intro lacks
    by_cases filled : channel.origin.id = ""
    · exact ⟨_, .noId filled⟩
    · cases given : ((source.episodesOf (.uncached upstream now) channel.origin.id).outcome
          ⟨.empty now, []⟩).1 with
      | error cause =>
        exact ⟨_, .noEpisodes filled known fun before =>
          (source.episodesOf_uncached channel.origin.id before _).trans given⟩
      | ok harvest =>
        rcases lacks with empty | ⟨source', cause, known', fails⟩ | blank
        · exact absurd empty filled
        · obtain rfl := Option.some.inj (known.symm.trans known')
          rw [fails] at given
          contradiction
        · exact ⟨_, .noTitle filled known (fun before =>
            (source.episodesOf_uncached channel.origin.id before _).trans given) blank⟩

/-! ### Accounts -/

variable {around : Surroundings}

theorem hasFeed_eq_false_iff :
    folder.HasFeed roster around channel = false ↔
      ∃ error, folder.feedAlone roster around channel = .error error := by
  rw [HasFeed]
  cases folder.feedAlone roster around channel <;> simp [Except.isOk, Except.toBool]

/-- The channels with a feed are those of the trials that have given one. -/
theorem map_channel_published {trials : List Trial}
    (alone : ∀ trial ∈ trials, trial.result = folder.feedAlone roster around trial.channel) :
    (published trials).map (·.channel) =
      (trials.map (·.channel)).filter (folder.HasFeed roster around) := by
  rw [List.filter_map, published]
  refine congrArg _ (List.filter_congr fun trial mem => ?_)
  rw [alone trial mem]
  rfl

/-- The other channels are reported one by one. -/
theorem forall₂_failures {trials : List Trial} {reason : Channel → PublishError → Prop}
    (alone : ∀ trial ∈ trials, trial.result = folder.feedAlone roster around trial.channel)
    (why : ∀ trial ∈ trials, ∀ error, trial.result = .error error → reason trial.channel error) :
    List.Forall₂ (fun channel entry => entry.1 = channel.title ∧ reason channel entry.2)
      ((trials.map (·.channel)).filter (!folder.HasFeed roster around ·))
      (trials.filterMap (·.failure?)) := by
  induction trials with
  | nil => exact .nil
  | cons trial trials ih =>
    rw [List.forall_mem_cons] at alone why
    have later := ih alone.2 why.2
    rw [List.map_cons]
    cases given : trial.result with
    | ok feed =>
      have has : folder.HasFeed roster around trial.channel = true := by
        rw [HasFeed, ← alone.1, given]
        rfl
      have none : trial.failure? = none := by rw [Trial.failure?, given]
      rw [List.filter_cons_of_neg (by simp [has]), List.filterMap_cons_none none]
      exact later
    | error error =>
      have lacks := hasFeed_eq_false_iff.mpr ⟨error, alone.1.symm.trans given⟩
      have some : trial.failure? = some (trial.channel.title, error) := by
        rw [Trial.failure?, given]
      rw [List.filter_cons_of_pos (by simp [lacks]), List.filterMap_cons_some some]
      exact .cons ⟨rfl, why.1 error given⟩ later

/-! ### The main statement -/

/-- **A channel without a feed is skipped.** A run without a cache that comes to its end accounts
for each merged channel once, in their order: those that have a feed get a path each, and the others
are reported with their titles and why they are left out, which are those with no id, with a listing
of episodes that fails, or with a blank title. The paths are those that the first ones get by
themselves, and a run on these alone reports the same paths, and no failure, and leaves the same
files. -/
theorem failures_skipped (folder : FeedFolder) (roster : Roster) (upstream : Transport)
    (now : Instant) (made : ∀ source ∈ roster.sources, source.IsMade)
    {session after : Session} {report : FolderReport}
    (h : outcome (folder.publishAll (.uncached upstream now) roster) session =
      (.ok report, after)) :
    let around := Surroundings.uncached upstream now
    let channels := ((roster.gather around).run session).1.1.channels
    let kept := channels.filter (folder.HasFeed roster around)
    let others := channels.filter (!folder.HasFeed roster around ·)
    report.written = folder.paths kept ∧ report.written.length = kept.length ∧
    List.Forall₂ (fun channel entry =>
      entry.1 = channel.title ∧ LeftOutFor roster around channel entry.2) others report.failed ∧
    (∀ channel ∈ channels, channel ∈ others ↔ channel.origin.id = "" ∨
      FailsToList roster around channel ∨ isBlankText channel.title = true) ∧
    ∃ after', outcome (folder.publishEach around roster kept { summary := report.summary })
        (folder.gathered around roster session).2 = (.ok { report with failed := [] }, after') ∧
      after'.files = after.files := by
  intro around channels kept others
  have same : (folder.gathered around roster session).1.1.channels = channels := by
    obtain ⟨sources⟩ := roster
    simp only [gathered, channels, around, Roster.gather_uncached]
  have run := publishAll_ok h
  rw [same] at run
  obtain ⟨tried, written, failed, summary⟩ := report_of_trials run
  have paths := paths_of_trials run
  generalize alike : folder.trials _ roster channels _ _ = trials at tried written failed paths
  simp only [List.nil_append] at written failed paths
  have alone : ∀ trial ∈ trials, trial.result = folder.feedAlone roster around trial.channel := by
    rw [← alike]
    exact fun trial mem => result_of_mem_trials mem
  have lacks : ∀ channel ∈ channels, ∀ error,
      folder.feedAlone roster around channel = .error error ↔
        LeftOutFor roster around channel error := by
    intro channel mem error
    refine ⟨fun failed => ?_, feedAlone_of_leftOutFor⟩
    obtain ⟨source, known⟩ := Roster.exists_source?_of_merged made mem
    exact leftOutFor_of_feedAlone known (not_isFatal_of_publishEach run mem failed) failed
  have feeds : (published trials).map (·.channel) = kept := by
    rw [map_channel_published alone, tried]
  refine ⟨?_, ?_, ?_, ?_, ?_⟩
  · rw [written, paths, feeds, FeedFolder.paths]
  · rw [written, List.length_map, ← feeds, List.length_map]
  · have account := forall₂_failures alone fun trial inside error given =>
      (lacks trial.channel (tried ▸ List.mem_map_of_mem inside) error).mp
        ((alone trial inside).symm.trans given)
    rw [tried, ← failed] at account
    exact account
  · intro channel mem
    obtain ⟨source, known⟩ := Roster.exists_source?_of_merged made mem
    rw [← exists_leftOutFor_iff known, List.mem_filter, Bool.not_eq_true', hasFeed_eq_false_iff,
      and_iff_right mem]
    exact exists_congr (lacks channel mem)
  · obtain ⟨after', without, files⟩ := publishEach_filter run rfl []
    exact ⟨after', summary ▸ without, files⟩

/-- Settings with one more source, which comes first and lists no episodes. -/
def mixedSettings : Settings where
  sources := {
    name := "r"
    baseUrl := some "http://r/"
    channelListings := [{
      name := "all"
      endpoint := { path := "d", mapping := [("Title", "t"), ("_meta.id", "i")] } }] } ::
    seriesSettings.sources

/-- The sources of these settings, if they can be made. -/
def mixedSources? : Option (List Source) :=
  (Source.makeAll mixedSettings .builtin).toOption

theorem mixedSources?_isSome : mixedSources?.isSome = true := by
  decide +kernel

/-- These sources. -/
def mixedRoster : Roster :=
  ⟨mixedSources?.get mixedSources?_isSome⟩

/-- A catalogue with series of one title, one of them in the source that lists no episodes, and
with a series without a title and one without an id. -/
def mixedCatalogue : Transport := fun request =>
  .ok ⟨200, (seriesPayload <|
    if request.url.path.text == "/d" then [("Krim", "4")]
    else if request.url.path.text == "/c" then
      [("", "2"), ("Krim", "1"), ("Kaffe", ""), ("Krim", "3")]
    else []).render.toUTF8⟩

/-- The series of one title that have a feed share two names, whatever is left out before them. -/
theorem failures_skipped_mixed :
    let around := Surroundings.uncached mixedCatalogue ⟨0, 0⟩
    let start : Session := ⟨.empty ⟨0, 0⟩, []⟩
    (∀ source ∈ mixedRoster.sources, source.IsMade) ∧
      ∃ report after,
        outcome (seriesFolder.publishAll around mixedRoster) start = (.ok report, after) ∧
        report.written = ["f/Krim.xml", "f/Krim-3.xml"] ∧
        report.failed.map (·.1) = ["Krim", "", "Kaffe"] ∧
        report.written = seriesFolder.paths
          (((mixedRoster.gather around).run start).1.1.channels.filter
            (seriesFolder.HasFeed mixedRoster around)) := by
  intro around start
  have made : Source.makeAll mixedSettings .builtin = .ok mixedRoster.sources :=
    toOption_eq_some_iff.mp (Option.eq_some_of_isSome mixedSources?_isSome)
  have isMade := Source.isMade_of_makeAll made
  have told : (outcome (seriesFolder.publishAll around mixedRoster) start).1.toOption.map
      (fun report => (report.written, report.failed.map (·.1))) =
        some (["f/Krim.xml", "f/Krim-3.xml"], ["Krim", "", "Kaffe"]) := by decide +kernel
  obtain ⟨report, done, same⟩ := Option.map_eq_some_iff.mp told
  obtain ⟨written, failed⟩ := Prod.mk.inj same
  have run : outcome (seriesFolder.publishAll around mixedRoster) start = (.ok report, _) :=
    Prod.ext (toOption_eq_some_iff.mp done) rfl
  exact ⟨isMade, report, _, run, written, failed,
    (failures_skipped seriesFolder mixedRoster mixedCatalogue ⟨0, 0⟩ isMade run).1⟩

end FeedFolder
end CatalogFeeds
