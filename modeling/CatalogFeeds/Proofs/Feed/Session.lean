import CatalogFeeds.Feed.Folder
import CatalogFeeds.Proofs.Engine.Session
/-!
What publishing does to a session, step by step.

`PublishM.outcome` is what an action of publishing gives on a session together with the session
after it, as `RunM.outcome` is for endpoints.

* `mergedFeed_outcome` — the feed of a channel, or why there is none. `mergedFeed_cases` lists the
  ways in which this ends, and `mergedFeed_ok` says what a feed shows.
* `feedById_outcome` — the feed of a channel that is asked for by its source and id.
* `publish_outcome` — a channel is written, left out, or ends the run.
* `publishAll_outcome` — a run gathers the channels once and publishes them one after another.
-/

namespace CatalogFeeds

open CatalogFeeds.Feed RunM

namespace PublishM

variable {α β : Type}

/-- What an action gives on a session, and the session after it. -/
def outcome (action : PublishM α) (session : Session) : Except PublishError α × Session :=
  action.run.run session

@[simp] theorem outcome_pure (a : α) (session : Session) :
    outcome (pure a) session = (.ok a, session) :=
  rfl

@[simp] theorem outcome_throw (error : PublishError) (session : Session) :
    outcome (throw error : PublishM α) session = (.error error, session) :=
  rfl

@[simp] theorem outcome_get (session : Session) :
    outcome (get : PublishM Session) session = (.ok session, session) :=
  rfl

@[simp] theorem outcome_set (after session : Session) :
    outcome (set after : PublishM PUnit) session = (.ok ⟨⟩, after) :=
  rfl

theorem outcome_bind (action : PublishM α) (next : α → PublishM β) (session : Session) :
    outcome (action >>= next) session =
      match outcome action session with
      | (.ok a, session) => outcome (next a) session
      | (.error error, session) => (.error error, session) := by
  simp only [outcome, bind, ExceptT.bind, ExceptT.run, ExceptT.mk, StateT.bind, StateT.run]
  rcases action session with ⟨_ | _, _⟩ <;> rfl

end PublishM

namespace FeedFolder

open PublishM

variable {α : Type} (folder : FeedFolder) (around : Surroundings) (roster : Roster)

@[simp] theorem outcome_lift (action : RunM α) (session : Session) :
    PublishM.outcome (lift action) session =
      ((action.outcome session).1.mapError .endpoint, (action.outcome session).2) :=
  rfl

@[simp] theorem outcome_attempt (action : PublishM α) (session : Session) :
    PublishM.outcome (attempt action) session =
      (.ok (PublishM.outcome action session).1, (PublishM.outcome action session).2) :=
  rfl

/-- The feed of a channel with episodes that are listed or not. -/
def feedFrom (channel : Channel) (listed : Except EndpointError (Harvest Episode)) :
    Except PublishError String :=
  match listed with
  | .error error => .error (.endpoint error)
  | .ok episodes => (render folder.settings channel episodes.records).mapError .feed

theorem feedOf_outcome (source : Source) (channel : Channel) (session : Session) :
    PublishM.outcome (folder.feedOf around source channel) session =
      (folder.feedFrom channel ((source.episodesOf around channel.origin.id).outcome session).1,
        ((source.episodesOf around channel.origin.id).outcome session).2) := by
  simp only [feedOf, PublishM.outcome_bind, outcome_lift, feedFrom]
  rcases (source.episodesOf around channel.origin.id).outcome session with ⟨error | episodes, after⟩
  · rfl
  · simp only [Except.mapError]
    cases render folder.settings channel episodes.records <;> rfl

/-- **The feed of a merged channel**: a channel without an id or with an unknown source has none
and nothing is asked for it. -/
theorem mergedFeed_outcome (channel : Channel) (session : Session) :
    PublishM.outcome (folder.mergedFeed around roster channel) session =
      if channel.origin.id.isEmpty then
        (.error (.notFound "channel id" channel.title), session)
      else match roster.source? channel.origin.source with
        | none => (.error (.notFound "source" channel.origin.source), session)
        | some source =>
          (folder.feedFrom channel ((source.episodesOf around channel.origin.id).outcome session).1,
            ((source.episodesOf around channel.origin.id).outcome session).2) := by
  unfold mergedFeed
  by_cases empty : channel.origin.id.isEmpty = true
  · simp [empty]
  · simp only [empty, Bool.false_eq_true, if_false]
    cases roster.source? channel.origin.source with
    | none => rfl
    | some source => exact folder.feedOf_outcome around source channel session

/-- **The feed of a channel of a source**: the source is asked for all its channels, and then for
the episodes of the first one with the id. -/
theorem feedById_outcome (sourceName id : String) (session : Session) :
    PublishM.outcome (folder.feedById around roster sourceName id) session =
      match roster.source? sourceName with
      | none => (.error (.notFound "source" sourceName), session)
      | some source =>
        let given := (source.collect around).run session
        match (given.1.lists.flatMap (·.channels)).find? (·.origin.id == id) with
        | none => (.error (.notFound "channel" id), given.2)
        | some channel =>
          (folder.feedFrom channel ((source.episodesOf around channel.origin.id).outcome given.2).1,
            ((source.episodesOf around channel.origin.id).outcome given.2).2) := by
  unfold feedById
  cases roster.source? sourceName with
  | none => rfl
  | some source =>
    have collected : PublishM.outcome (source.collect around : PublishM Collected) session =
        (.ok ((source.collect around).run session).1, ((source.collect around).run session).2) :=
      rfl
    simp only [PublishM.outcome_bind, collected]
    cases (((source.collect around).run session).1.lists.flatMap (·.channels)).find?
      (·.origin.id == id) with
    | none => rfl
    | some channel => exact folder.feedOf_outcome around source channel _

variable {folder around roster}

/-- **How trying a channel ends**: for want of an id, a source or episodes, or as rendering the
channel with its episodes does. -/
theorem mergedFeed_cases {channel : Channel} {session : Session}
    {result : Except PublishError String}
    (h : (PublishM.outcome (folder.mergedFeed around roster channel) session).1 = result) :
    (channel.origin.id = "" ∧ result = .error (.notFound "channel id" channel.title)) ∨
    (roster.source? channel.origin.source = none ∧
      result = .error (.notFound "source" channel.origin.source)) ∨
    (channel.origin.id ≠ "" ∧ ∃ source, roster.source? channel.origin.source = some source ∧
      ((∃ error, ((source.episodesOf around channel.origin.id).outcome session).1 =
          .error error ∧ result = .error (.endpoint error)) ∨
        ∃ harvest, ((source.episodesOf around channel.origin.id).outcome session).1 =
          .ok harvest ∧
          result = (render folder.settings channel harvest.records).mapError .feed)) := by
  rw [mergedFeed_outcome] at h
  split at h
  · rename_i empty
    exact .inl ⟨by simpa using empty, h.symm⟩
  · rename_i filled
    right
    split at h
    · rename_i unknown
      exact .inl ⟨unknown, h.symm⟩
    · rename_i source known
      refine .inr ⟨by simpa using filled, source, known, ?_⟩
      simp only [feedFrom] at h
      split at h
      · rename_i error failed
        exact .inl ⟨error, failed, h.symm⟩
      · rename_i harvest listed
        exact .inr ⟨harvest, listed, h.symm⟩

/-- A feed shows a channel with an id and the episodes that its source lists. -/
theorem mergedFeed_ok {channel : Channel} {session : Session} {feed : String}
    (h : (PublishM.outcome (folder.mergedFeed around roster channel) session).1 = .ok feed) :
    channel.origin.id ≠ "" ∧
      ∃ source, roster.source? channel.origin.source = some source ∧
        ∃ harvest, ((source.episodesOf around channel.origin.id).outcome session).1 = .ok harvest ∧
          render folder.settings channel harvest.records = .ok feed := by
  rcases mergedFeed_cases h with ⟨-, same⟩ | ⟨-, same⟩ | ⟨filled, source, known, listing⟩
  · simp at same
  · simp at same
  · rcases listing with ⟨error, -, same⟩ | ⟨harvest, listed, same⟩
    · simp at same
    · exact ⟨filled, source, known, harvest, listed, mapError_eq_ok_iff.mp same.symm⟩

variable (folder around roster)

theorem writeFile_outcome (path content : String) (session : Session) :
    PublishM.outcome (writeFile around path content) session =
      match session.files.writeFile around.now content.toUTF8 (FilePath.place path) with
      | .ok files => (.ok ⟨⟩, { session with files })
      | .error cause => (.error (.io cause), session) := by
  simp only [writeFile, PublishM.outcome_bind, PublishM.outcome_get]
  cases session.files.writeFile around.now content.toUTF8 (FilePath.place path) <;> rfl

theorem makeDirectory_outcome (path : String) (session : Session) :
    PublishM.outcome (makeDirectory around path) session =
      let made := session.files.makeDirectories around.now (FilePath.place path)
      (match made.2 with
        | none => .ok ⟨⟩
        | some cause => .error (.io cause), { session with files := made.1 }) := by
  simp only [makeDirectory, PublishM.outcome_bind, PublishM.outcome_get, PublishM.outcome_set]
  rcases session.files.makeDirectories around.now (FilePath.place path) with ⟨files, _ | cause⟩ <;>
    rfl

/-- **Publishing a channel**: its feed is written, or the channel is left out, unless the error
is fatal. -/
theorem publish_outcome (report : FolderReport) (channel : Channel) (session : Session) :
    PublishM.outcome (folder.publish around roster report channel) session =
      match PublishM.outcome (folder.mergedFeed around roster channel) session with
      | (.ok feed, session) =>
        let path := folder.filePathFor channel report.written
        match session.files.writeFile around.now feed.toUTF8 (FilePath.place path) with
        | .ok files => (.ok { report with written := report.written ++ [path] },
            { session with files })
        | .error cause => (.error (.io cause), session)
      | (.error error, session) =>
        (if error.isFatal then .error error
          else .ok { report with failed := report.failed ++ [(channel.title, error)] },
          session) := by
  simp only [publish, PublishM.outcome_bind, outcome_attempt]
  rcases PublishM.outcome (folder.mergedFeed around roster channel) session with
    ⟨error | feed, after⟩
  · simp only
    by_cases fatal : error.isFatal = true
    · simp [fatal]
    · simp [fatal]
  · simp only [PublishM.outcome_bind, writeFile_outcome]
    cases after.files.writeFile around.now feed.toUTF8
      (FilePath.place (folder.filePathFor channel report.written)) <;> rfl

/-- **A run**: the directory is made, the channels are gathered, and each of them is published. -/
theorem publishAll_outcome (session : Session) :
    PublishM.outcome (folder.publishAll around roster) session =
      match PublishM.outcome (makeDirectory around folder.directory) session with
      | (.error error, session) => (.error error, session)
      | (.ok _, session) =>
        let gathered := (roster.gather around).run session
        PublishM.outcome
          (gathered.1.1.channels.foldlM (folder.publish around roster) { summary := gathered.1.2 })
          gathered.2 := by
  simp only [publishAll, PublishM.outcome_bind]
  rcases PublishM.outcome (makeDirectory around folder.directory) session with
    ⟨error | _, after⟩ <;> rfl

end FeedFolder

end CatalogFeeds
