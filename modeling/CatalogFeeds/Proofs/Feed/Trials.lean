import CatalogFeeds.Proofs.Engine.Locality
import CatalogFeeds.Proofs.Feed.Names
import CatalogFeeds.Proofs.Feed.Session
/-!
What becomes of the channels of a run.

A run tries the channels one after another. What it tries is kept in a list of trials, which says
for each channel where its feed goes and what the feed is, or why there is none. The report of the
run and the files after it are told by the trials.

* `publish_ok` — the two ways in which a channel is published or left out.
* `publishAll_error` — the two things that end a whole run.
* `report_of_trials` — the report names the paths of the feeds and the reasons of the others, both
  in the order of the channels.
* `fileAt?_of_trials`, `fileAt?_of_other_trials` — a file holds the last feed that went there, and
  is as before the run if none did.
-/

namespace CatalogFeeds

/-- What becomes of a channel: the path its feed goes to, and the feed or why there is none. -/
structure Trial where
  channel : Channel
  path : String
  result : Except PublishError String

namespace Trial

/-- What is reported of a channel that has no feed. -/
def failure? (trial : Trial) : Option (String × PublishError) :=
  match trial.result with
  | .ok _ => none
  | .error error => some (trial.channel.title, error)

/-- The trials that have given a feed. -/
def published (trials : List Trial) : List Trial :=
  trials.filter (·.result.isOk)

variable {channel : Channel} {path : String} {trial : Trial} {rest : List Trial}

@[simp] theorem published_cons_ok (feed : String) :
    published (⟨channel, path, .ok feed⟩ :: rest) = ⟨channel, path, .ok feed⟩ :: published rest :=
  rfl

@[simp] theorem published_cons_error (error : PublishError) :
    published (⟨channel, path, .error error⟩ :: rest) = published rest :=
  rfl

theorem mem_published :
    trial ∈ published rest ↔ trial ∈ rest ∧ ∃ feed, trial.result = .ok feed := by
  rw [published, List.mem_filter]
  cases trial.result <;> simp [Except.isOk, Except.toBool]

end Trial

namespace FeedFolder

open PublishM Trial

variable (folder : FeedFolder) (around : Surroundings) (roster : Roster)

/-- Publishes channels one after another. -/
def publishEach (channels : List Channel) (report : FolderReport) : PublishM FolderReport :=
  channels.foldlM (folder.publish around roster) report

/-- The trials of channels. Each begins with the report and the session that those before it have
left; none follows one that has ended the run. -/
def trials : List Channel → FolderReport → Session → List Trial
  | [], _, _ => []
  | channel :: rest, report, session =>
    { channel
      path := folder.filePathFor channel report.written
      result := (outcome (folder.mergedFeed around roster channel) session).1 } ::
    match outcome (folder.publish around roster report channel) session with
    | (.ok report, session) => trials rest report session
    | (.error _, _) => []

variable {folder around roster} {channel : Channel} {channels : List Channel}
  {report result : FolderReport} {session after : Session}

theorem publishEach_cons :
    outcome (folder.publishEach around roster (channel :: channels) report) session =
      match outcome (folder.publish around roster report channel) session with
      | (.ok report, session) =>
        outcome (folder.publishEach around roster channels report) session
      | (.error error, session) => (.error error, session) := by
  rw [publishEach, List.foldlM_cons, outcome_bind]
  rcases outcome (folder.publish around roster report channel) session with ⟨_ | _, _⟩ <;> rfl

/-! ### One channel -/

/-- **What publishing a channel does** when it does not end the run. -/
theorem publish_ok
    (h : outcome (folder.publish around roster report channel) session = (.ok result, after)) :
    (∃ feed between files,
        outcome (folder.mergedFeed around roster channel) session = (.ok feed, between) ∧
        between.files.writeFile around.now feed.toUTF8
          (FilePath.place (folder.filePathFor channel report.written)) = .ok files ∧
        after = { between with files } ∧
        result = { report with
          written := report.written ++ [folder.filePathFor channel report.written] }) ∨
      ∃ error, outcome (folder.mergedFeed around roster channel) session = (.error error, after) ∧
        error.isFatal = false ∧
        result = { report with failed := report.failed ++ [(channel.title, error)] } := by
  rw [publish_outcome] at h
  rcases made : outcome (folder.mergedFeed around roster channel) session with
    ⟨error | feed, between⟩
  · right
    simp only [made] at h
    by_cases fatal : error.isFatal = true
    · simp [fatal] at h
    · simp only [fatal, Bool.false_eq_true, if_false, Prod.mk.injEq, Except.ok.injEq] at h
      obtain ⟨rfl, rfl⟩ := h
      exact ⟨error, rfl, by simpa using fatal, rfl⟩
  · left
    simp only [made] at h
    cases written : between.files.writeFile around.now feed.toUTF8
        (FilePath.place (folder.filePathFor channel report.written)) with
    | error cause => simp only [written, Prod.mk.injEq, reduceCtorEq, false_and] at h
    | ok files =>
      simp only [written, Prod.mk.injEq, Except.ok.injEq] at h
      obtain ⟨rfl, rfl⟩ := h
      exact ⟨feed, between, files, rfl, written, rfl, rfl⟩

/-- **What ends a run** at a channel: a file that cannot be written, or the feed itself. -/
theorem publish_error {error : PublishError}
    (h : (outcome (folder.publish around roster report channel) session).1 = .error error) :
    (∃ cause, error = .io cause) ∨
      error.isFatal = true ∧
        (outcome (folder.mergedFeed around roster channel) session).1 = .error error := by
  rw [publish_outcome] at h
  rcases made : outcome (folder.mergedFeed around roster channel) session with
    ⟨found | feed, between⟩
  · right
    simp only [made] at h
    by_cases fatal : found.isFatal = true
    · rw [if_pos fatal] at h
      obtain rfl := Except.error.inj h
      exact ⟨fatal, rfl⟩
    · simp [fatal] at h
  · left
    simp only [made] at h
    split at h
    · simp at h
    · exact ⟨_, (Except.error.inj h).symm⟩

/-! ### Many channels -/

theorem exists_of_publishEach_error {error : PublishError}
    (h : (outcome (folder.publishEach around roster channels report) session).1 = .error error) :
    ∃ channel ∈ channels, ∃ report before,
      (outcome (folder.publish around roster report channel) before).1 = .error error := by
  induction channels generalizing report session with
  | nil => simp [publishEach] at h
  | cons channel channels ih =>
    rw [publishEach_cons] at h
    rcases step : outcome (folder.publish around roster report channel) session with
      ⟨found | next, between⟩
    · simp only [step] at h
      exact ⟨channel, List.mem_cons_self, report, session, by rw [step]; exact h⟩
    · simp only [step] at h
      obtain ⟨other, mem, failed⟩ := ih h
      exact ⟨other, List.mem_cons_of_mem channel mem, failed⟩

/-- A run that comes to its end has published the first channel and then the others. -/
theorem publishEach_cons_ok
    (h : outcome (folder.publishEach around roster (channel :: channels) report) session =
      (.ok result, after)) :
    ∃ next between,
      outcome (folder.publish around roster report channel) session = (.ok next, between) ∧
      outcome (folder.publishEach around roster channels next) between = (.ok result, after) ∧
      folder.trials around roster (channel :: channels) report session =
        { channel
          path := folder.filePathFor channel report.written
          result := (outcome (folder.mergedFeed around roster channel) session).1 } ::
        folder.trials around roster channels next between := by
  rw [publishEach_cons] at h
  rcases step : outcome (folder.publish around roster report channel) session with
    ⟨error | next, between⟩
  · simp [step] at h
  · simp only [step] at h
    exact ⟨next, between, rfl, h, by simp [trials, step]⟩

/-! ### Whole runs -/

variable (folder around roster session) in
/-- What the sources give at the beginning of a run, and the session after it. -/
def gathered : (ChannelBatch × Roundup) × Session :=
  (roster.gather around).run (outcome (makeDirectory around folder.directory) session).2

variable (folder around roster session) in
/-- The trials of a whole run, which are of the merged channels. -/
def allTrials : List Trial :=
  folder.trials around roster (folder.gathered around roster session).1.1.channels
    { summary := (folder.gathered around roster session).1.2 }
    (folder.gathered around roster session).2

/-- A whole run that comes to its end publishes the merged channels. -/
theorem publishAll_ok
    (h : outcome (folder.publishAll around roster) session = (.ok result, after)) :
    outcome (folder.publishEach around roster (folder.gathered around roster session).1.1.channels
        { summary := (folder.gathered around roster session).1.2 })
      (folder.gathered around roster session).2 = (.ok result, after) := by
  rw [publishAll_outcome] at h
  unfold gathered
  rcases made : outcome (makeDirectory around folder.directory) session with ⟨error | _, between⟩
  · simp [made] at h
  · simp only [made] at h
    exact h

/-- **What ends a whole run**: a file or directory that cannot be written, or the feed of one of
the merged channels. -/
theorem publishAll_error {error : PublishError}
    (h : (outcome (folder.publishAll around roster) session).1 = .error error) :
    (∃ cause, error = .io cause) ∨
      error.isFatal = true ∧ ∃ channel ∈ (folder.gathered around roster session).1.1.channels,
        ∃ before, (outcome (folder.mergedFeed around roster channel) before).1 = .error error := by
  rw [publishAll_outcome] at h
  unfold gathered
  rcases made : outcome (makeDirectory around folder.directory) session with ⟨found | _, between⟩
  · left
    simp only [made, Except.error.injEq] at h
    rw [makeDirectory_outcome] at made
    have first := congrArg Prod.fst made
    simp only at first
    split at first
    · simp at first
    · exact ⟨_, h ▸ (Except.error.inj first).symm⟩
  · simp only [made] at h
    obtain ⟨channel, mem, report, before, failed⟩ := exists_of_publishEach_error h
    rcases publish_error failed with cause | ⟨fatal, feed⟩
    · exact .inl cause
    · exact .inr ⟨fatal, channel, mem, before, feed⟩

/-! ### The report -/

/-- **What a run reports.** Every channel is tried once; those that have a feed are written, and
the others are reported with the reason, each in the order of the channels. -/
theorem report_of_trials
    (h : outcome (folder.publishEach around roster channels report) session =
      (.ok result, after)) :
    (folder.trials around roster channels report session).map (·.channel) = channels ∧
      result.written = report.written ++
        (published (folder.trials around roster channels report session)).map (·.path) ∧
      result.failed = report.failed ++
        (folder.trials around roster channels report session).filterMap (·.failure?) ∧
      result.summary = report.summary := by
  induction channels generalizing report session with
  | nil =>
    obtain ⟨rfl, -⟩ := by simpa [publishEach] using h
    simp [trials, published]
  | cons channel channels ih =>
    obtain ⟨next, between, step, rest, unfolded⟩ := publishEach_cons_ok h
    obtain ⟨tried, written, failed, summary⟩ := ih rest
    rw [unfolded, List.map_cons, tried, written, failed, summary]
    rcases publish_ok step with ⟨feed, _, files, made, -, -, rfl⟩ | ⟨error, made, -, rfl⟩
    · simp [made, failure?]
    · simp [made, failure?]

/-- Each trial is of one of the channels, at some point of the run. -/
theorem exists_of_mem_trials {trial : Trial}
    (mem : trial ∈ folder.trials around roster channels report session) :
    trial.channel ∈ channels ∧
      (∃ taken, trial.path = folder.filePathFor trial.channel taken) ∧
      ∃ before, trial.result =
        (outcome (folder.mergedFeed around roster trial.channel) before).1 := by
  induction channels generalizing report session with
  | nil => simp [trials] at mem
  | cons channel channels ih =>
    rw [trials] at mem
    rcases List.mem_cons.mp mem with rfl | later
    · exact ⟨List.mem_cons_self, ⟨_, rfl⟩, ⟨_, rfl⟩⟩
    · rcases step : outcome (folder.publish around roster report channel) session with
        ⟨error | next, between⟩
      · simp [step] at later
      · simp only [step] at later
        obtain ⟨inside, path, result⟩ := ih later
        exact ⟨List.mem_cons_of_mem channel inside, path, result⟩

/-- The paths of the feeds are those that their channels get one after another. -/
theorem paths_of_trials
    (h : outcome (folder.publishEach around roster channels report) session =
      (.ok result, after)) :
    report.written ++ (published (folder.trials around roster channels report session)).map
        (·.path) =
      ((published (folder.trials around roster channels report session)).map (·.channel)).foldl
        (fun taken channel => taken ++ [folder.filePathFor channel taken]) report.written := by
  induction channels generalizing report session with
  | nil => simp [trials, published]
  | cons channel channels ih =>
    obtain ⟨next, between, step, rest, unfolded⟩ := publishEach_cons_ok h
    have later := ih rest
    rw [unfolded]
    rcases publish_ok step with ⟨feed, _, files, made, -, -, rfl⟩ | ⟨error, made, -, rfl⟩
    · simpa [made] using later
    · simpa [made] using later

/-! ### The files -/

variable (folder around roster) in
/-- No source keeps its payloads in the directory of the feeds. -/
def IsApart : Prop :=
  ∀ cache, around.cache = some cache → ∀ source ∈ roster.sources,
    FilePath.place folder.directory ≠ cache.place ++ [source.engine.directory]

/-- Asking for the episodes of a channel changes no file outside the directory of the source. -/
theorem fileAt?_episodesOf {source : Source} {path : List String}
    (outside : ∀ cache name, around.cache = some cache →
      path ≠ cache.place ++ [source.engine.directory, name]) (id : String) (session : Session) :
    ((source.episodesOf around id).outcome session).2.files.fileAt? path =
      session.files.fileAt? path := by
  cases offered : source.episodeListing with
  | none => simp only [Source.episodesOf, offered, RunM.outcome_throw]
  | some endpoint =>
    simp only [Source.episodesOf, offered]
    refine Engine.fileAt?_run Episode.read (fun cache names used file => ?_) session
    rw [(Engine.file?_eq_some_iff.mp file).2]
    exact outside cache _ used

/-- Making a feed changes no file in the directory of the feeds. -/
theorem fileAt?_mergedFeed (apart : folder.IsApart around roster) (name : String)
    (channel : Channel) (session : Session) :
    (outcome (folder.mergedFeed around roster channel) session).2.files.fileAt?
        (FilePath.place folder.directory ++ [name]) =
      session.files.fileAt? (FilePath.place folder.directory ++ [name]) := by
  rw [mergedFeed_outcome]
  split
  · rfl
  · split
    · rfl
    · rename_i source found
      refine fileAt?_episodesOf (fun cache file used same => ?_) channel.origin.id session
      rw [List.append_cons cache.place] at same
      exact apart cache used source (List.mem_of_find?_eq_some found)
        (List.append_inj' same rfl).1

/-- Publishing a channel leaves its feed in its file, and every other feed as it is. -/
theorem fileAt?_publish_ok (apart : folder.IsApart around roster)
    (h : outcome (folder.publish around roster report channel) session = (.ok result, after))
    (name : String) :
    after.files.fileAt? (FilePath.place folder.directory ++ [name]) =
      match (outcome (folder.mergedFeed around roster channel) session).1 with
      | .ok feed =>
        if FilePath.place folder.directory ++ [name] =
          FilePath.place (folder.filePathFor channel report.written)
        then some (feed.toUTF8, around.now)
        else session.files.fileAt? (FilePath.place folder.directory ++ [name])
      | .error _ => session.files.fileAt? (FilePath.place folder.directory ++ [name]) := by
  have kept := fileAt?_mergedFeed apart name channel session
  rcases publish_ok h with ⟨feed, between, files, made, written, rfl, -⟩ | ⟨error, made, -, -⟩
  · rw [made] at kept ⊢
    simp only at kept ⊢
    split
    · rename_i own
      rw [own]
      exact FileTree.fileAt?_writeFile_self written
    · rename_i other
      rw [← kept]
      exact FileTree.fileAt?_writeFile_of_ne written other
  · rw [made] at kept ⊢
    exact kept

/-- A file that no feed goes to is as it was before the run. -/
theorem fileAt?_of_other_trials (apart : folder.IsApart around roster)
    (h : outcome (folder.publishEach around roster channels report) session =
      (.ok result, after)) {name : String}
    (others : ∀ trial ∈ published (folder.trials around roster channels report session),
      FilePath.place trial.path ≠ FilePath.place folder.directory ++ [name]) :
    after.files.fileAt? (FilePath.place folder.directory ++ [name]) =
      session.files.fileAt? (FilePath.place folder.directory ++ [name]) := by
  induction channels generalizing report session with
  | nil =>
    obtain ⟨-, rfl⟩ := by simpa [publishEach] using h
    rfl
  | cons channel channels ih =>
    obtain ⟨next, between, step, rest, unfolded⟩ := publishEach_cons_ok h
    rw [unfolded] at others
    have first := fileAt?_publish_ok apart step name
    rw [ih rest fun trial mem => others trial ?_, first]
    · split
      · rename_i feed made
        have here := others _ (mem_published.mpr ⟨List.mem_cons_self, feed, made⟩)
        rw [if_neg here.symm]
      · rfl
    · obtain ⟨later, feed⟩ := mem_published.mp mem
      exact mem_published.mpr ⟨List.mem_cons_of_mem _ later, feed⟩

/-- **A feed file holds the last feed that went there.** -/
theorem fileAt?_of_trials (apart : folder.IsApart around roster)
    (h : outcome (folder.publishEach around roster channels report) session =
      (.ok result, after)) {front back : List Trial} {trial : Trial} {feed : String}
    (split : folder.trials around roster channels report session = front ++ trial :: back)
    (made : trial.result = .ok feed)
    (last : ∀ later ∈ published back, later.path ≠ trial.path) :
    after.files.fileAt? (FilePath.place trial.path) = some (feed.toUTF8, around.now) := by
  induction channels generalizing report session front with
  | nil => simp [trials] at split
  | cons channel channels ih =>
    obtain ⟨next, between, step, rest, unfolded⟩ := publishEach_cons_ok h
    rw [unfolded] at split
    cases front with
    | cons first front =>
      rw [List.cons_append] at split
      exact ih rest (List.cons.inj split).2
    | nil =>
      obtain ⟨rfl, rfl⟩ := List.cons.inj split
      obtain ⟨name, -, place⟩ := folder.place_filePathFor channel report.written
      have first := fileAt?_publish_ok apart step name
      simp only at made last ⊢
      rw [made] at first
      simp only [if_pos place.symm] at first
      -- What is left is that the later channels do not touch the file.
      rw [place, ← first]
      refine fileAt?_of_other_trials apart rest fun later mem same => ?_
      obtain ⟨-, ⟨taken, path⟩, -⟩ := exists_of_mem_trials (mem_published.mp mem).1
      refine last later mem ?_
      rw [path] at same ⊢
      exact (folder.place_filePathFor_inj _ _).mp (same.trans place.symm)

end FeedFolder

end CatalogFeeds
