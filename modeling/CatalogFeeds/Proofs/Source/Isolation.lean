import CatalogFeeds.Proofs.Settings.Validity
import CatalogFeeds.Proofs.Source.Make
import CatalogFeeds.Proofs.Source.Query
/-!
Sources beside each other in one cache.

The directory of a source is the safe form of its name, and valid settings have no two sources
with the same one. So what is done on one source is not noticed by any other.

* `make_directory` — a source keeps its payloads in the directory that the check of the settings
  looks at.
* `perform_seesOnly`, `perform_hiddenFrom` — an operation depends on the directory of its source
  and on no other, and shows in no other.
* `sources_isolated` — after any operations on one source, an operation on another gives the same,
  sends the same and leaves the same files in its directory as without them.
-/

namespace CatalogFeeds

open RunM

/-- What can be done on a source: all its listings, or one query. -/
inductive Operation where
  | collect
  | ask (query : Query)

/-- What an operation gives. -/
inductive Answer where
  | collected (channels : Collected)
  | reply (reply : Reply)

/-! ### The directory of a source -/

namespace Source

/-- A preset keeps the name. -/
theorem effective_name (settings : SourceSettings) :
    (effective settings).name = settings.name := by
  unfold effective
  cases settings.kind <;> rfl

theorem make_name {settings : SourceSettings} {ttl : Time.Duration} {modifiers : ModifierSet}
    {source : Source} (h : make settings ttl modifiers = .ok source) :
    source.engine.name = settings.name := by
  obtain ⟨⟨baseUrl, -, built⟩, -⟩ := of_make h
  rw [← effective_name]
  exact (Option.some.inj (Engine.of_make built).1).symm

/-- **Where a source keeps its payloads.** -/
theorem make_directory {settings : SourceSettings} {ttl : Time.Duration}
    {modifiers : ModifierSet} {source : Source} (h : make settings ttl modifiers = .ok source) :
    source.engine.directory = settings.cacheDirectory := by
  rw [Engine.directory, make_name h, SourceSettings.cacheDirectory]

/-! ### Listings -/

variable {source : Source} {around : Surroundings} {cache : PayloadStore} {directory : String}
  {place : List String}

/-- What a result adds to what the listings after it have given. -/
def addResult (result : Except EndpointError ChannelBatch) (collected : Collected) : Collected :=
  match result with
  | .ok list => { collected with lists := list :: collected.lists }
  | .error error => { collected with errors := error :: collected.errors }

/-- Collecting is one run after another. -/
theorem collectFrom_cons (listing : Listing) (rest : List Listing) (session : Session) :
    (source.collectFrom around (listing :: rest)).run session =
      let first := (source.channelsFrom around listing.endpoint {} listing.entryName).outcome session
      let later := (source.collectFrom around rest).run first.2
      (addResult first.1 later.1, later.2) := by
  rw [collectFrom]
  rcases first : (source.channelsFrom around listing.endpoint {} listing.entryName).outcome session
    with ⟨result, between⟩
  have run : source.channelsFrom around listing.endpoint {} listing.entryName session =
      (result, between) := first
  simp only [bind, StateT.bind, StateT.run, run]
  cases result <;> rfl

/-- A listing is a run, whose file is in the directory of its source. -/
theorem channelsFrom_seesOnly {endpoint : Endpoint} {params : Params} {start : String}
    (uses : ∀ store, around.cache = some store → store = cache) :
    SeesOnly (cache.place ++ [source.engine.directory]) []
      (source.channelsFrom around endpoint params start).outcome := by
  have mapped : (source.channelsFrom around endpoint params start).outcome = _ :=
    funext (outcome_bind_pure _ fun run : Harvest Channel => (⟨run.records, run.raw⟩ : ChannelBatch))
  rw [mapped]
  exact (Engine.run_seesOnly (fun _ => Engine.directory_prefix_of_file?) uses).andThen
    fun result => .pure _

theorem channelsFrom_hiddenFrom {endpoint : Endpoint} {params : Params} {start : String}
    (other : directory ≠ source.engine.directory)
    (uses : ∀ store, around.cache = some store → store = cache) :
    HiddenFrom (cache.place ++ [directory]) []
      (source.channelsFrom around endpoint params start).outcome := by
  have mapped : (source.channelsFrom around endpoint params start).outcome = _ :=
    funext (outcome_bind_pure _ fun run : Harvest Channel => (⟨run.records, run.raw⟩ : ChannelBatch))
  rw [mapped]
  exact (Engine.run_hiddenFrom (fun _ => Engine.not_prefix_of_file? other) uses).andThen
    fun result => .pure _

theorem collectFrom_seesOnly (uses : ∀ store, around.cache = some store → store = cache)
    (listings : List Listing) :
    SeesOnly (cache.place ++ [source.engine.directory]) []
      (source.collectFrom around listings).run := by
  induction listings with
  | nil => exact .pure ({} : Collected)
  | cons listing rest ih =>
    rw [funext (collectFrom_cons listing rest)]
    exact (channelsFrom_seesOnly uses).andThen fun result =>
      ih.andThen fun collected => .pure (addResult result collected)

theorem collectFrom_hiddenFrom (other : directory ≠ source.engine.directory)
    (uses : ∀ store, around.cache = some store → store = cache) (listings : List Listing) :
    HiddenFrom (cache.place ++ [directory]) [] (source.collectFrom around listings).run := by
  induction listings with
  | nil => exact .pure ({} : Collected)
  | cons listing rest ih =>
    rw [funext (collectFrom_cons listing rest)]
    exact (channelsFrom_hiddenFrom other uses).andThen fun result =>
      ih.andThen fun collected => .pure (addResult result collected)

end Source

/-! ### Operations -/

namespace Operation

variable {source : Source} {around : Surroundings} {cache : PayloadStore} {directory : String}
  (operation : Operation)

/-- Does an operation on a source: its answer, and the session afterwards. -/
def perform (source : Source) (around : Surroundings) (session : Session) : Answer × Session :=
  match operation with
  | collect =>
    let (collected, session) := (source.collect around).run session
    (.collected collected, session)
  | ask query =>
    let (reply, session) := query.ask source around session
    (.reply reply, session)

/-- The session after operations on a source, each in its own surroundings. -/
def performAll (source : Source) (visits : List (Operation × Surroundings)) (session : Session) :
    Session :=
  visits.foldl (fun session visit => (visit.1.perform source visit.2 session).2) session

/-- An operation sees the directory of its source. -/
theorem perform_seesOnly (source : Source) (uses : ∀ store, around.cache = some store → store = cache) :
    SeesOnly (cache.place ++ [source.engine.directory]) [] (operation.perform source around) := by
  cases operation with
  | collect =>
    exact (Source.collectFrom_seesOnly uses source.listings).andThen fun collected =>
      .pure (Answer.collected collected)
  | ask query =>
    exact (Query.ask_seesOnly (fun _ => Engine.directory_prefix_of_file?) uses).andThen
      fun reply => .pure (Answer.reply reply)

/-- An operation does not show in the directory of another source. -/
theorem perform_hiddenFrom (other : directory ≠ source.engine.directory)
    (uses : ∀ store, around.cache = some store → store = cache) :
    HiddenFrom (cache.place ++ [directory]) [] (operation.perform source around) := by
  cases operation with
  | collect =>
    exact (Source.collectFrom_hiddenFrom other uses source.listings).andThen fun collected =>
      .pure (Answer.collected collected)
  | ask query =>
    exact (Query.ask_hiddenFrom (fun _ => Engine.not_prefix_of_file? other) uses).andThen
      fun reply => .pure (Answer.reply reply)

end Operation

/-! ### The main statement -/

/-- **Sources do not notice each other.** For two sources of valid settings: after any operations
on one of them, an operation on the other gives the same, sends the same requests and leaves the
same in the directory of its source as if they had not been done. -/
theorem sources_isolated {settings : Settings} {first second : SourceSettings}
    {ttl : Time.Duration} {modifiers : ModifierSet} {source other : Source}
    (valid : settings.validate = .ok ()) (mem : first ∈ settings.sources)
    (mem' : second ∈ settings.sources) (ne : first ≠ second)
    (made : Source.make first ttl modifiers = .ok source)
    (made' : Source.make second ttl modifiers = .ok other)
    (visits : List (Operation × Surroundings)) (operation : Operation) (around : Surroundings)
    (shared : ∀ visit ∈ visits, visit.2.cache = around.cache) (session : Session) :
    let before := Operation.performAll source visits session
    (operation.perform other around before).1 = (operation.perform other around session).1 ∧
      (∃ requests, (operation.perform other around before).2.sent = before.sent ++ requests ∧
        (operation.perform other around session).2.sent = session.sent ++ requests) ∧
      ∀ cache path, around.cache = some cache →
        (operation.perform other around before).2.files.at?
            (cache.place ++ other.engine.directory :: path) =
          (operation.perform other around session).2.files.at?
            (cache.place ++ other.engine.directory :: path) := by
  intro before
  have apart : other.engine.directory ≠ source.engine.directory := by
    rw [Source.make_directory made, Source.make_directory made']
    exact (Settings.differ_of_validate valid mem mem' ne).directory.symm
  obtain ⟨cache, uses⟩ := around.exists_cache
  have unseen := HiddenFrom.foldl visits (fun visit inside =>
    visit.1.perform_hiddenFrom apart ((shared visit inside).symm ▸ uses)) session
  obtain ⟨answer, sent, sight⟩ :=
    operation.perform_seesOnly other uses before session unseen
  refine ⟨answer, sent, fun store path used => ?_⟩
  obtain rfl := uses store used
  rw [List.append_cons, FileTree.at?_append, FileTree.at?_append _ _ path]
  have content := sight.content
  rw [List.append_nil] at content
  rw [content]

/-- A source that lists the episodes of a channel. -/
def episodeSource (name : String) : SourceSettings where
  name := name
  baseUrl := some "http://h/"
  episodeListing := some { path := "e" }

/-- Settings with two sources. -/
def twoSources : Settings where
  sources := [episodeSource "s", episodeSource "t"]

/-- A cache, a clock, and an empty list as the answer to every request. -/
def emptyCatalogue (seconds : Int) : Surroundings where
  transport _ := .ok ⟨200, ⟨#[91, 93]⟩⟩
  cache := some ⟨"c", ["c"]⟩
  now := ⟨seconds, 0⟩

/-- The same channel of two sources. -/
theorem sources_isolated_same_channel :
    twoSources.validate = .ok () ∧ ∃ source other,
      Source.make (episodeSource "s") ⟨60, 0⟩ .builtin = .ok source ∧
      Source.make (episodeSource "t") ⟨60, 0⟩ .builtin = .ok other ∧
      let before := Operation.performAll source
        [(.collect, emptyCatalogue 0), (.ask (.episodes "a"), emptyCatalogue 1)]
        ⟨.empty ⟨0, 0⟩, []⟩
      ((Operation.ask (.episodes "a")).perform other (emptyCatalogue 2) before).1 =
        ((Operation.ask (.episodes "a")).perform other (emptyCatalogue 2)
          ⟨.empty ⟨0, 0⟩, []⟩).1 := by
  have valid : twoSources.validate = .ok () := toOption_eq_some_iff.mp (by decide +kernel)
  have makes : ∀ name ∈ ["s", "t"], (Source.make (episodeSource name) ⟨60, 0⟩
      .builtin).toOption.isSome = true := by decide +kernel
  obtain ⟨source, made⟩ := Option.isSome_iff_exists.mp (makes "s" (by simp))
  obtain ⟨other, made'⟩ := Option.isSome_iff_exists.mp (makes "t" (by simp))
  rw [toOption_eq_some_iff] at made made'
  refine ⟨valid, source, other, made, made', ?_⟩
  exact (sources_isolated valid (by simp [twoSources]) (by simp [twoSources])
    (by simp [episodeSource]) made made' _ _ (emptyCatalogue 2) (by simp [emptyCatalogue]) _).1

end CatalogFeeds
