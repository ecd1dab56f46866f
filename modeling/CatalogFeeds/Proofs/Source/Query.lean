import CatalogFeeds.Proofs.Cache.Segment
import CatalogFeeds.Proofs.Engine.Locality
import CatalogFeeds.Source.Basic
/-!
The files that the payloads of one source are in.

A source is asked for one of its listings, for the episodes of a channel, or for titles. Each of
these has a key, and the key leaves a trace: the stem and the extension of its file.

* `ask_eq` — asking is one run of the engine, or fails at once. How asking acts on the files
  follows from what is known of runs.
-/

namespace CatalogFeeds

open RunM Segment

/-- What a source can be asked for in one run: a listing of channels, the episodes of a channel,
or the titles that match a text. -/
inductive Query where
  | listing (listing : Listing)
  | episodes (id : String)
  | titles (text : String)

/-- What a source answers. -/
inductive Reply where
  | channels (result : Except EndpointError ChannelBatch)
  | episodes (result : Except EndpointError (Harvest Episode))

namespace Query

/-- The key that the payload of a query is cached under. -/
def key : Query → String
  | .listing item => ({} : Params).entryName item.entryName
  | .episodes id => (⟨[("podID", .string id)]⟩ : Params).entryName Source.episodesKey
  | .titles text => (⟨[("query", .string text)]⟩ : Params).entryName Source.searchKey

/-- Asks a source: its reply, and the session afterwards. -/
def ask (source : Source) (around : Surroundings) (query : Query) (session : Session) :
    Reply × Session :=
  match query with
  | .listing item =>
    let (result, session) :=
      (source.channelsFrom around item.endpoint {} item.entryName).outcome session
    (.channels result, session)
  | .episodes id =>
    let (result, session) := (source.episodesOf around id).outcome session
    (.episodes result, session)
  | .titles text =>
    let (result, session) := (source.titlesMatching around text).outcome session
    (.channels result, session)

/-! ### Asking -/

variable (source : Source) (around : Surroundings) (query : Query)

/-- **Asking is one run**, or an error for what the source does not offer. -/
theorem ask_eq :
    (∃ reply, ∀ session, query.ask source around session = (reply, session)) ∨
      ∃ (α : Type) (endpoint : Endpoint) (read : Json → Except ShapeError α) (params : Params)
        (start : String) (reply : Except EndpointError (Harvest α) → Reply),
        params.entryName start = query.key ∧
          ∀ session, query.ask source around session =
            (reply ((source.engine.run around endpoint read params start).outcome session).1,
              ((source.engine.run around endpoint read params start).outcome session).2) := by
  cases query with
  | listing listing =>
    refine .inr ⟨_, listing.endpoint, Channel.read, {}, listing.entryName,
      fun result => .channels (result.map fun run => ⟨run.records, run.raw⟩), rfl, ?_⟩
    intro session
    simp only [ask, Source.channelsFrom, outcome_bind_pure]
  | episodes id =>
    cases offered : source.episodeListing with
    | none =>
      refine .inl ⟨.episodes (.error (.missingEndpoint "ListEpisodes")), fun session => ?_⟩
      simp only [ask, Source.episodesOf, offered, outcome_throw]
    | some endpoint =>
      refine .inr ⟨_, endpoint, Episode.read, ⟨[("podID", .string id)]⟩, Source.episodesKey,
        .episodes, rfl, fun session => ?_⟩
      simp only [ask, Source.episodesOf, offered]
  | titles text =>
    cases offered : source.titleSearch with
    | none =>
      refine .inl ⟨.channels (.error (.missingEndpoint "SearchTitles")), fun session => ?_⟩
      simp only [ask, Source.titlesMatching, offered, outcome_throw]
    | some endpoint =>
      refine .inr ⟨_, endpoint, Channel.read, ⟨[("query", .string text)]⟩, Source.searchKey,
        fun result => .channels (result.map fun run => ⟨run.records, run.raw⟩), rfl, ?_⟩
      intro session
      simp only [ask, Source.titlesMatching, offered, Source.channelsFrom, outcome_bind_pure]

variable {source around query} {cache : PayloadStore}

theorem ask_seesOnly {directory : String} {place : List String}
    (within : ∀ names, source.engine.file? query.key = some names → directory :: place <+: names)
    (uses : ∀ store, around.cache = some store → store = cache) :
    SeesOnly (cache.place ++ [directory]) place (query.ask source around) := by
  rcases query.ask_eq source around with
    ⟨reply, asked⟩ | ⟨α, endpoint, read, params, start, reply, key, asked⟩
  · rw [funext asked]
    exact .pure reply
  · rw [funext asked]
    rw [← key] at within
    exact (Engine.run_seesOnly within uses).andThen fun result => .pure (reply result)

theorem ask_hiddenFrom {directory : String} {place : List String}
    (apart : ∀ names, source.engine.file? query.key = some names →
      ¬ directory :: place <+: names)
    (uses : ∀ store, around.cache = some store → store = cache) :
    HiddenFrom (cache.place ++ [directory]) place (query.ask source around) := by
  rcases query.ask_eq source around with
    ⟨reply, asked⟩ | ⟨α, endpoint, read, params, start, reply, key, asked⟩
  · rw [funext asked]
    exact .pure reply
  · rw [funext asked]
    rw [← key] at apart
    exact (Engine.run_hiddenFrom apart uses).andThen fun result => .pure (reply result)

/-! ### Traces -/

/-- What a key leaves in the name of its file: the stem and the extension. -/
def trace (query : Query) : List Char × List Char :=
  (stemName (Engine.fileText query.key).toList, extensionName (Engine.fileText query.key).toList)

/-- The text of a value together with the extension that its key lacks. -/
def valueText (query : Query) (value : String) : List Char :=
  value.toList ++ (if FilePath.hasExtension query.key then [] else ".json".toList)

theorem key_episodes (id : String) : (episodes id).key = "episodes-podID" ++ "=" ++ id := by
  rw [← String.toList_inj]
  simp [key, Params.entryName, Params.entryText, Params.valueText, Source.episodesKey, String.join]

theorem key_titles (text : String) : (titles text).key = "search-query" ++ "=" ++ text := by
  rw [← String.toList_inj]
  simp [key, Params.entryName, Params.entryText, Params.valueText, Source.searchKey, String.join]

theorem fileText_toList {name value : String} (h : query.key = name ++ "=" ++ value) :
    (Engine.fileText query.key).toList = name.toList ++ '=' :: query.valueText value := by
  unfold Engine.fileText valueText
  split <;> simp [h]

/-- What a query with one parameter leaves behind the name of the parameter. -/
def valueTrace (query : Query) (value : String) : List Char :=
  squeeze true (marks (Text.dropEndWhile (· == ' ') (cutExtension (query.valueText value)).1))

/-- **The trace of a query with one parameter**: the name of the parameter and a dash, and behind
it the marks of the value. -/
theorem trace_value {name value : String} (h : query.key = name ++ "=" ++ value)
    (inner : name.toList.all isInner = true) (first : name.toList.head? ≠ some ' ') :
    query.trace = (squeeze false (marks name.toList ++ ['-']) ++ query.valueTrace value,
      extensionName (query.valueText value)) := by
  rw [trace, fileText_toList h, stemName_value inner first, extensionName_value inner, valueTrace]

theorem trace_episodes (id : String) :
    (episodes id).trace = ("episodes-podID-".toList ++ (episodes id).valueTrace id,
      extensionName ((episodes id).valueText id)) := by
  have start : squeeze false (marks "episodes-podID".toList ++ ['-']) =
      "episodes-podID-".toList := by decide
  rw [trace_value (key_episodes id) (by decide) (by decide), start]

theorem trace_titles (text : String) :
    (titles text).trace = ("search-query-".toList ++ (titles text).valueTrace text,
      extensionName ((titles text).valueText text)) := by
  have start : squeeze false (marks "search-query".toList ++ ['-']) = "search-query-".toList := by
    decide
  rw [trace_value (key_titles text) (by decide) (by decide), start]

/-- Episodes and searches leave different traces. -/
theorem trace_episodes_ne_titles (id text : String) :
    (episodes id).trace ≠ (titles text).trace := by
  rw [trace_episodes, trace_titles]
  intro same
  have first := congrArg (List.head? ·.1) same
  simp at first

/-! ### Shared files -/

/-- Two queries share a file. -/
def Share (source : Source) (first second : Query) : Prop :=
  ∃ file, source.engine.file? first.key = some file ∧ source.engine.file? second.key = some file

/-- **Which queries share a file**: those with keys that leave the same trace. -/
theorem share_iff (source : Source) (first second : Query) :
    Share source first second ↔
      first.key ≠ "" ∧ second.key ≠ "" ∧ first.trace = second.trace := by
  have named : Engine.fileName first.key = Engine.fileName second.key ↔
      first.trace = second.trace := by
    rw [Engine.fileName, Engine.fileName, safeName, safeName, String.ofList_inj,
      sanitizeChars_true_inj, trace, trace, Prod.mk.injEq]
  simp only [Share, Engine.file?_eq_some_iff, ← named]
  constructor
  · rintro ⟨file, ⟨filled, rfl⟩, filled', same⟩
    exact ⟨filled, filled', by simpa using same⟩
  · rintro ⟨filled, filled', same⟩
    exact ⟨_, ⟨filled, rfl⟩, filled', by rw [same]⟩

end Query

end CatalogFeeds
