import CatalogFeeds.Proofs.Engine.History
import CatalogFeeds.Proofs.Engine.Reference
import Mathlib.Data.List.Induction
/-!
When a cache does not show.

A cache hands out what a catalogue once answered to the request of some run. That is what the
catalogue answers now, if it answers equal requests alike and runs that share a file of the cache
make equal requests. Neither the clock nor what the payloads are read as comes into it.

* `exchange_ok_iff` — the body that a run gets from the network, in terms of its request.
* `Errand.IsBacked.perform` — every file of the cache holds what the catalogue answers to a run
  that uses it, and one more run leaves it so. `isBacked_after` says the same of any number of
  runs.
* `answer_of_isBacked` — on such a cache a run gives what it gives without a cache.
* `runs_ignore_cache` — so the runs of an engine give what they give without a cache.
-/

namespace CatalogFeeds

open CatalogFeeds.Time RunM

/-! ### Requests and their answers -/

namespace Engine

/-- The request of a run, or why it cannot be made. -/
def request (engine : Engine) (endpoint : Endpoint) (params : Params) : EndpointM Request := do
  let url ← engine.urlFor endpoint params
  engine.requestFor endpoint params url

/-- A body comes from the network exactly if there is a request and its answer is no error. -/
theorem exchange_ok_iff {engine : Engine} {upstream : Transport} {endpoint : Endpoint}
    {params : Params} {body : ByteArray} :
    (engine.exchange upstream endpoint params).2 = .ok body ↔
      ∃ request, engine.request endpoint params = .ok request ∧
        ∃ response, upstream request = .ok response ∧ response.status < 400 ∧
          response.body = body := by
  unfold exchange request
  cases engine.urlFor endpoint params with
  | error error => simp [bind, Except.bind]
  | ok url =>
    simp only [bind, Except.bind]
    cases engine.requestFor endpoint params url with
    | error error => simp
    | ok request =>
      cases answered : upstream request with
      | error error => simp [answered]
      | ok response =>
        by_cases refused : 400 ≤ response.status
        · simp [answered, refused, Nat.not_lt.mpr refused]
        · simp [answered, refused, Nat.lt_of_not_le refused]

end Engine

/-! ### Runs -/

/-- A run of an endpoint, at some time, with a reader for its records. -/
structure Errand where
  endpoint : Endpoint
  params : Params
  start : String
  reader : RecordReader
  now : Instant

namespace Errand

section Runs

variable (engine : Engine) (upstream : Transport) (cache : Option PayloadStore) (errand : Errand)
  (session : Session)

/-- The names of the file of a run, if it has one. -/
def file? : Option (List String) :=
  engine.file? (errand.params.entryName errand.start)

/-- The request of a run, or why it cannot be made. -/
def request : EndpointM Request :=
  engine.request errand.endpoint errand.params

/-- What surrounds a run. -/
def around : Surroundings :=
  { transport := upstream, cache, now := errand.now }

/-- Makes a run: its result, and the session after it. -/
def perform : Except EndpointError (Harvest errand.reader.α) × Session :=
  (engine.run (errand.around upstream cache) errand.endpoint errand.reader.read errand.params
    errand.start).outcome session

/-- The records and the payload that a run gives, or its error. -/
def answer : Except EndpointError (List errand.reader.α × ByteArray) :=
  (errand.perform engine upstream cache session).1.map fun harvest => (harvest.records, harvest.raw)

end Runs

/-- The session after runs were made one after another. -/
def after (engine : Engine) (upstream : Transport) (cache : PayloadStore) (errands : List Errand)
    (session : Session) : Session :=
  errands.foldl (fun session errand => (errand.perform engine upstream (some cache) session).2)
    session

/-- Whether runs that share a file make the same request, or fail to for the same reason. -/
def Agree (engine : Engine) (errands : List Errand) : Prop :=
  ∀ first ∈ errands, ∀ second ∈ errands, ∀ names,
    first.file? engine = some names → second.file? engine = some names →
      first.request engine = second.request engine

/-- Whether every file of the cache holds what the catalogue answers to one of the runs that use
the file. -/
def IsBacked (engine : Engine) (upstream : Transport) (cache : PayloadStore)
    (errands : List Errand) (files : FileTree) : Prop :=
  ∀ names body made, files.fileAt? (cache.place ++ names) = some (body, made) →
    ∃ errand ∈ errands, errand.file? engine = some names ∧
      (engine.exchange upstream errand.endpoint errand.params).2 = .ok body

variable {engine : Engine} {upstream : Transport} {cache : PayloadStore} {errands : List Errand}
  {errand : Errand} {session : Session}

/-! ### What a run leaves in the cache -/

theorem IsBacked.mono {files : FileTree} (h : IsBacked engine upstream cache errands files)
    (later : List Errand) : IsBacked engine upstream cache (errands ++ later) files := by
  intro names body made found
  obtain ⟨errand, mem, uses, answered⟩ := h names body made found
  exact ⟨errand, List.mem_append_left later mem, uses, answered⟩

variable (engine upstream cache errand session) in
/-- A run leaves a file of the cache as it is, or uses it and has put into it what the catalogue
answers. -/
theorem fileAt?_perform (names : List String) :
    let files := (errand.perform engine upstream (some cache) session).2.files
    files.fileAt? (cache.place ++ names) = session.files.fileAt? (cache.place ++ names) ∨
      errand.file? engine = some names ∧
        ∃ body, (engine.exchange upstream errand.endpoint errand.params).2 = .ok body ∧
          files.fileAt? (cache.place ++ names) = some (body, errand.now) := by
  rcases engine.run_session (errand.around upstream (some cache)) errand.endpoint
    errand.reader.read errand.params errand.start session with same | asked
  · left
    rw [perform, same]
  · rw [perform, asked, Engine.settled]
    have network : (errand.around upstream (some cache)).transport = upstream := rfl
    rw [network]
    rcases engine.exchange upstream errand.endpoint errand.params with ⟨sent, error | body⟩
    · exact .inl rfl
    · simp only [Engine.deposit_files]
      cases keyed : engine.entryKey? (errand.params.entryName errand.start) with
      | none =>
        have unkept : engine.slot? (errand.around upstream (some cache)) errand.params
            errand.start = none := by simp [Engine.slot?, Engine.cacheSlot?, around, keyed]
        rw [unkept]
        exact .inl rfl
      | some key =>
        have slot : engine.slot? (errand.around upstream (some cache)) errand.params
            errand.start = some (cache, key) := (Engine.slot?_eq_some_iff ..).mpr ⟨rfl, keyed⟩
        rw [slot, Option.elim_some]
        cases written : (cache.write (errand.around upstream (some cache)).now session.files key
            body).1 with
        | error error =>
          exact .inl (PayloadStore.write_failure_keeps Storage.takesWhole_sound written _)
        | ok stored =>
          obtain ⟨named, shown⟩ := PayloadStore.write_stores written
          rw [shown]
          by_cases own : names = stored
          · subst own
            have uses : errand.file? engine = some names := by
              simp [file?, Engine.file?, keyed, named, Except.toOption]
            exact .inr ⟨uses, body, rfl, by simp [around]⟩
          · left
            simp [own]

/-- **One more run** leaves every file of the cache with an answer to a run that uses it. -/
theorem IsBacked.perform (h : IsBacked engine upstream cache errands session.files)
    (errand : Errand) :
    IsBacked engine upstream cache (errands ++ [errand])
      (errand.perform engine upstream (some cache) session).2.files := by
  intro names body made found
  rcases fileAt?_perform engine upstream cache errand session names with
    same | ⟨uses, answer, answered, stored⟩
  · rw [same] at found
    exact h.mono [errand] names body made found
  · rw [stored, Option.some.injEq, Prod.mk.injEq] at found
    obtain ⟨rfl, -⟩ := found
    exact ⟨errand, by simp, uses, answered⟩

/-- After any runs every file of the cache holds an answer to one of them. -/
theorem isBacked_after (blank : ∀ names, session.files.fileAt? (cache.place ++ names) = none)
    (errands : List Errand) :
    IsBacked engine upstream cache errands (after engine upstream cache errands session).files := by
  induction errands using List.reverseRecOn with
  | nil =>
    intro names body made found
    rw [after, List.foldl_nil, blank] at found
    contradiction
  | append_singleton errands last ih =>
    have step := ih.perform last
    rwa [after, List.foldl_append]

/-! ### What a run gives -/

variable (engine upstream errand session) in
/-- Without a cache a run gives what the network answers, read by its endpoint. -/
theorem answer_none :
    errand.answer engine upstream none session =
      (engine.exchange upstream errand.endpoint errand.params).2.bind fun body =>
        (engine.decode errand.endpoint errand.reader.read body).map (·, body) := by
  have bare := engine.run_bare_outcome (errand.around upstream none) errand.endpoint
    errand.reader.read errand.params errand.start session
  have same : ({ errand.around upstream none with cache := none } : Surroundings) =
      errand.around upstream none := rfl
  have network : (errand.around upstream none).transport = upstream := rfl
  rw [same, network] at bare
  rw [answer, perform, bare]
  rcases engine.exchange upstream errand.endpoint errand.params with ⟨sent, error | body⟩
  · rfl
  · cases decoded : engine.decode errand.endpoint errand.reader.read body with
    | error error => simp [decoded, Except.map, Except.bind]
    | ok records => simp [decoded, Except.map, Except.bind]

/-- What the cache gives to a run is what the catalogue answers to the request of the run, if runs
that use its file make the same request. -/
theorem exchange_of_cached {body : ByteArray}
    (backed : IsBacked engine upstream cache errands session.files)
    (agree : ∀ earlier ∈ errands, ∀ names, earlier.file? engine = some names →
      errand.file? engine = some names → earlier.request engine = errand.request engine)
    (cached : engine.cached? (errand.around upstream (some cache)) session.files
      (engine.slot? (errand.around upstream (some cache)) errand.params errand.start) =
        some body) :
    (engine.exchange upstream errand.endpoint errand.params).2 = .ok body := by
  cases keyed : engine.entryKey? (errand.params.entryName errand.start) with
  | none =>
    simp [Engine.slot?, Engine.cacheSlot?, around, keyed, Engine.cached?] at cached
  | some key =>
    have slot : engine.slot? (errand.around upstream (some cache)) errand.params errand.start =
        some (cache, key) := (Engine.slot?_eq_some_iff ..).mpr ⟨rfl, keyed⟩
    rw [slot, Engine.cached?_eq_some_iff] at cached
    obtain ⟨names, named, made, file, -⟩ := PayloadStore.freshEntry_eq_some_iff.mp cached.2
    have uses : errand.file? engine = some names := by
      simp [file?, Engine.file?, keyed, named, Except.toOption]
    obtain ⟨earlier, mem, shares, answered⟩ := backed names body made file
    have same : engine.request earlier.endpoint earlier.params =
        engine.request errand.endpoint errand.params := agree earlier mem names shares uses
    rw [Engine.exchange_ok_iff] at answered ⊢
    rw [← same]
    exact answered

/-- **On such a cache a run gives what it gives without one.** -/
theorem answer_of_isBacked (backed : IsBacked engine upstream cache errands session.files)
    (agree : ∀ earlier ∈ errands, ∀ names, earlier.file? engine = some names →
      errand.file? engine = some names → earlier.request engine = errand.request engine)
    (other : Session) :
    errand.answer engine upstream (some cache) session =
      errand.answer engine upstream none other := by
  rw [answer_none engine upstream errand other]
  cases located : engine.urlFor errand.endpoint errand.params with
  | error error =>
    rw [answer, perform, Engine.run_outcome, located,
      engine.exchange_of_urlFor errand.endpoint errand.params located]
    rfl
  | ok url =>
    have ran := engine.run_outcome (errand.around upstream (some cache)) errand.endpoint
      errand.reader.read errand.params errand.start session .sound
    rw [located] at ran
    cases usable : engine.usable? (errand.around upstream (some cache)) errand.endpoint
      errand.reader.read errand.params errand.start session.files with
    | some kept =>
      obtain ⟨body, records⟩ := kept
      simp only [usable] at ran
      have cached := engine.run_cache (errand.around upstream (some cache)) errand.endpoint
        errand.reader.read errand.params errand.start session (congrArg Prod.fst ran) rfl
      have answered := exchange_of_cached backed agree cached
      have decoded := engine.run_decodes (errand.around upstream (some cache)) errand.endpoint
        errand.reader.read errand.params errand.start session (congrArg Prod.fst ran)
      simp only [Engine.finish] at decoded answered
      rw [answer, perform, ran, answered]
      simp [Except.map, Except.bind, Engine.finish, decoded]
    | none =>
      simp only [usable] at ran
      -- The run goes to the network, as it does without a cache.
      have bare : ({ errand.around upstream (some cache) with cache := none } : Surroundings) =
          errand.around upstream none := rfl
      rw [← answer_none engine upstream errand session, answer, perform, ran,
        Engine.runFresh_eq_bare, bare, answer, perform]
      rcases engine.run (errand.around upstream none) errand.endpoint errand.reader.read
        errand.params errand.start |>.outcome session with ⟨error | harvest, later⟩
      · rfl
      · rfl

/-! ### The main statement -/

/-- **A cache does not show.** Let runs be made one after another on an engine with a cache that
has no files at first, and let the catalogue answer equal requests alike. If runs that share a file
of the cache make the same request, or fail to for the same reason, each run gives the records and
the payload, or the error, that it gives on the engine without a cache. -/
theorem runs_ignore_cache (engine : Engine) (upstream : Transport) (cache : PayloadStore)
    (errands : List Errand) (start : Session)
    (blank : ∀ names, start.files.fileAt? (cache.place ++ names) = none)
    (agree : Agree engine errands) :
    ∀ before errand later, errands = before ++ errand :: later → ∀ session,
      errand.answer engine upstream (some cache) (after engine upstream cache before start) =
        errand.answer engine upstream none session := by
  rintro before errand later rfl session
  refine answer_of_isBacked (isBacked_after blank before) ?_ session
  intro earlier mem names shares uses
  exact agree earlier (List.mem_append_left _ mem) errand (by simp) names shares uses

/-- A catalogue that has one series. -/
def oneSeries : Transport :=
  fun _ => .ok ⟨200, (Json.array [.ofEntries [("t", .string "Krim")]]).render.toUTF8⟩

/-- Lists the series of a catalogue by the given rules, at some second. -/
def seriesErrand (mappings : List FieldRule) (seconds : Int) : Errand where
  endpoint := { Engine.baseEndpoint with mappings }
  params := {}
  start := "list"
  reader := ⟨Channel.read⟩
  now := ⟨seconds, 0⟩

/-- The rule that reads titles. -/
def titleRule : FieldRule :=
  ⟨{ name := "title", kind := .text }, .path ⟨"t", ["t"], none⟩⟩

/-- The second of two runs reads more of the payload than the first, at an earlier time, and is
answered by the cache. -/
theorem runs_ignore_cache_two_mappings :
    let errands := [seriesErrand [] 30, seriesErrand [titleRule] 10]
    let start : Session := ⟨.empty ⟨0, 0⟩, []⟩
    let session := after Engine.minuteEngine oneSeries Engine.ownCache [seriesErrand [] 30] start
    let second := seriesErrand [titleRule] 10
    (∀ names, start.files.fileAt? (Engine.ownCache.place ++ names) = none) ∧
      Agree Engine.minuteEngine errands ∧
      (second.perform Engine.minuteEngine oneSeries (some Engine.ownCache) session).1.toOption.map
        (·.origin) = some .cache ∧
      second.answer Engine.minuteEngine oneSeries (some Engine.ownCache) session =
        second.answer Engine.minuteEngine oneSeries none start := by
  intro errands start session second
  have blank : ∀ names, start.files.fileAt? (Engine.ownCache.place ++ names) = none :=
    fun _ => FileTree.fileAt?_empty _ _
  have agree : Agree Engine.minuteEngine errands := by
    have same : ∀ errand ∈ errands,
        errand.request Engine.minuteEngine = second.request Engine.minuteEngine := by
      simp only [errands, List.forall_mem_cons, List.not_mem_nil, false_imp_iff, implies_true,
        and_true]
      exact ⟨rfl, rfl⟩
    intro first mem other mem' names _ _
    rw [same first mem, same other mem']
  refine ⟨blank, agree, by decide +kernel, ?_⟩
  exact runs_ignore_cache Engine.minuteEngine oneSeries Engine.ownCache errands start blank agree
    [seriesErrand [] 30] second [] rfl start

end Errand

end CatalogFeeds
