import CatalogFeeds.Proofs.Engine.Exchange
import CatalogFeeds.Proofs.Time.Instant
/-!
Calls one after another on one engine.

What is in the cache is told by what has been stored: every call either stores the body of an
answer in the file of its key or leaves all files as they are (`Call.deposit?`), so a file holds
the last body that was stored in it.

* `fileAt?_perform` — what one call does to the files of the cache.
* `fileAt?_after` — what any number of calls does to them, by induction over the calls.
* `payload_from_cache` — a payload from the cache is the last body stored in its file, and no
  older than payloads may get.
-/

namespace CatalogFeeds

open CatalogFeeds.Time RunM

/-- A reader of records of some type. -/
structure RecordReader where
  {α : Type}
  read : Json → Except ShapeError α

/-- A call on an engine: a run, or the fetching of a payload if there is no reader. Calls are made
at times that the clock shows, which are no leap seconds, and each has its own transport. -/
structure Call where
  endpoint : Endpoint
  params : Params
  start : String
  reader : Option RecordReader
  transport : Transport
  now : Instant
  plain : now.IsPlain

/-- A body in the cache: the names of its path below the cache, and when it was stored. -/
structure Deposit where
  names : List String
  body : ByteArray
  time : Instant

namespace Call

variable (engine : Engine) (cache : PayloadStore) (call : Call) (session : Session)

/-- What surrounds a call. -/
def around : Surroundings :=
  { transport := call.transport, cache := some cache, now := call.now }

@[simp] theorem around_transport : (call.around cache).transport = call.transport :=
  rfl

@[simp] theorem around_now : (call.around cache).now = call.now :=
  rfl

@[simp] theorem slot?_around :
    engine.slot? (call.around cache) call.params call.start =
      (engine.entryKey? (call.params.entryName call.start)).map (cache, ·) := by
  cases key : engine.entryKey? (call.params.entryName call.start) <;>
    simp [Engine.slot?, Engine.cacheSlot?, around, key]

/-- The payload of a call and where it comes from. -/
def action : RunM (ByteArray × Supplier) :=
  match call.reader with
  | none => do
    let payload ← engine.fetch (call.around cache) call.endpoint call.params call.start
    return (payload.body, payload.origin)
  | some reader => do
    let harvest ←
      engine.run (call.around cache) call.endpoint reader.read call.params call.start
    return (harvest.raw, harvest.origin)

/-- Makes a call: its result, and the session after it. -/
def perform : Except EndpointError (ByteArray × Supplier) × Session :=
  (call.action engine cache).outcome session

/-- The names of the file of a call. -/
def file? : Option (List String) :=
  engine.file? (call.params.entryName call.start)

/-- The answer to a call, if it sent a request and the status of the answer is below 400. -/
def answer? : Option ByteArray := do
  let request ← (call.perform engine cache session).2.sent[session.sent.length]?
  let response ← (call.transport request).toOption
  if response.status < 400 then some response.body else none

/-- What a call stores: the body of its answer, if it can be written to its file. -/
def deposit? : Option Deposit := do
  let body ← call.answer? engine cache session
  let key ← engine.entryKey? (call.params.entryName call.start)
  let names ← (cache.write call.now session.files key body).1.toOption
  return ⟨names, body, call.now⟩

end Call

namespace Engine

variable (engine : Engine) (cache : PayloadStore) (session : Session)

/-- The session after a list of calls. -/
def after (session : Session) : List Call → Session
  | [] => session
  | call :: calls => after (call.perform engine cache session).2 calls

/-- What a list of calls has stored, in the order of the calls. -/
def history (session : Session) : List Call → List Deposit
  | [] => []
  | call :: calls =>
    (call.deposit? engine cache session).toList ++
      history (call.perform engine cache session).2 calls

end Engine

/-- What was last stored in a file. -/
def lastDeposit? (names : List String) (deposits : List Deposit) : Option Deposit :=
  (deposits.filter (·.names == names)).getLast?

@[simp] theorem lastDeposit?_nil (names : List String) : lastDeposit? names [] = none :=
  rfl

theorem lastDeposit?_append (names : List String) (deposits later : List Deposit) :
    lastDeposit? names (deposits ++ later) =
      (lastDeposit? names later).or (lastDeposit? names deposits) := by
  simp [lastDeposit?, List.filter_append, List.getLast?_append]

theorem lastDeposit?_singleton (names : List String) (deposit : Deposit) :
    lastDeposit? names [deposit] = if deposit.names = names then some deposit else none := by
  by_cases same : deposit.names = names <;> simp [lastDeposit?, same]

/-! ### One call -/

namespace Call

variable {engine : Engine} {cache : PayloadStore} {call : Call} {session : Session}

variable (engine cache call session) in
/-- A call leaves the session as it is, or asks the network. -/
theorem perform_session :
    (call.perform engine cache session).2 = session ∨
      (call.perform engine cache session).2 =
        engine.settled (call.around cache) call.endpoint call.params call.start session := by
  cases kind : call.reader with
  | none =>
    simp only [perform, action, kind, outcome_bind_pure]
    exact engine.fetch_session (call.around cache) call.endpoint call.params call.start session
  | some reader =>
    simp only [perform, action, kind, outcome_bind_pure]
    exact engine.run_session (call.around cache) call.endpoint reader.read call.params call.start
      session

/-- What a call gives from the cache is what the cache has for it. -/
theorem perform_cache {body : ByteArray}
    (h : (call.perform engine cache session).1 = .ok (body, .cache)) :
    engine.cached? (call.around cache) session.files
      (engine.slot? (call.around cache) call.params call.start) = some body := by
  cases kind : call.reader with
  | none =>
    simp only [perform, action, kind, outcome_bind_pure] at h
    obtain ⟨payload, fetched, same⟩ := map_eq_ok_iff.mp h
    obtain ⟨rfl, origin⟩ := Prod.mk.inj same
    exact engine.fetch_cache (call.around cache) call.endpoint call.params call.start session
      fetched origin
  | some reader =>
    simp only [perform, action, kind, outcome_bind_pure] at h
    obtain ⟨harvest, ran, same⟩ := map_eq_ok_iff.mp h
    obtain ⟨rfl, origin⟩ := Prod.mk.inj same
    exact engine.run_cache (call.around cache) call.endpoint reader.read call.params call.start
      session ran origin

/-- A call that leaves the session as it is has no answer. -/
theorem answer?_of_same (same : (call.perform engine cache session).2 = session) :
    call.answer? engine cache session = none := by
  simp [answer?, same]

/-- The answer to a call that asks the network is the body that it exchanges. -/
theorem answer?_of_settled
    (asked : (call.perform engine cache session).2 =
      engine.settled (call.around cache) call.endpoint call.params call.start session) :
    call.answer? engine cache session =
      (engine.exchange call.transport call.endpoint call.params).2.toOption := by
  rw [answer?, asked, Engine.settled, around_transport]
  rcases exchanged : engine.exchange call.transport call.endpoint call.params with
    ⟨sent, error | body⟩
  · rcases Engine.exchange_error exchanged with rfl | ⟨request, rfl, refused⟩
    · simp [Except.toOption]
    · cases answered : call.transport request with
      | error error => simp [answered, Except.toOption]
      | ok response =>
        have high := refused response answered
        simp [answered, Except.toOption, Nat.not_lt.mpr high]
  · obtain ⟨request, response, rfl, answered, low, rfl⟩ := Engine.exchange_ok exchanged
    simp [answered, Except.toOption, Nat.lt_of_not_le low]

variable (engine cache call session) in
/-- **What one call does to the files of the cache**: it sets the file of what it stores, and no
other. -/
theorem fileAt?_perform (names : List String) :
    (call.perform engine cache session).2.files.fileAt? (cache.place ++ names) =
      match (call.deposit? engine cache session).filter (·.names == names) with
      | some deposit => some (deposit.body, deposit.time)
      | none => session.files.fileAt? (cache.place ++ names) := by
  rcases call.perform_session engine cache session with same | asked
  · simp [deposit?, answer?_of_same same, same]
  · rw [deposit?, answer?_of_settled asked, asked, Engine.settled, around_transport]
    rcases engine.exchange call.transport call.endpoint call.params with ⟨sent, error | body⟩
    · simp [Except.toOption]
    · simp only [Engine.deposit_files, slot?_around, around_now]
      cases engine.entryKey? (call.params.entryName call.start) with
      | none => simp [Except.toOption]
      | some key =>
        simp only [Option.map_some, Option.elim_some, Except.toOption, Option.bind_eq_bind,
          Option.bind_some, Option.pure_def]
        cases written : (cache.write call.now session.files key body).1 with
        | error error =>
          simpa using PayloadStore.write_failure_keeps Storage.takesWhole_sound written
            (cache.place ++ names)
        | ok stored =>
          have shown := (PayloadStore.write_stores written).2 (cache.place ++ names)
          by_cases own : names = stored
          · simpa [own, Option.filter] using shown
          · simpa [own, Ne.symm own, Option.filter] using shown

end Call

/-! ### Any number of calls -/

namespace Engine

variable {engine : Engine} {cache : PayloadStore}

/-- **What calls do to the files of the cache**: a file holds what was last stored in it, or what
it held before. -/
theorem fileAt?_after (session : Session) (calls : List Call) (names : List String) :
    (engine.after cache session calls).files.fileAt? (cache.place ++ names) =
      match lastDeposit? names (engine.history cache session calls) with
      | some deposit => some (deposit.body, deposit.time)
      | none => session.files.fileAt? (cache.place ++ names) := by
  induction calls generalizing session with
  | nil => rfl
  | cons call calls ih =>
    have first := call.fileAt?_perform engine cache session names
    rw [after, ih, first, history, lastDeposit?_append]
    cases lastDeposit? names (engine.history cache (call.perform engine cache session).2 calls) with
    | some deposit => rfl
    | none =>
      cases call.deposit? engine cache session with
      | none => rfl
      | some deposit =>
        by_cases own : deposit.names = names <;>
          simp [lastDeposit?_singleton, Option.filter, own]

/-- **What the cache gives was stored last and is fresh.** From a cache without files on, a
payload that a call gives from the cache is not empty, is the last body that a call before it has
stored in its file, and was stored no longer ago than payloads stay fresh. -/
theorem payload_from_cache {files : FileTree} (calls : List Call) (call : Call)
    {sent : List Request} {body : ByteArray}
    (blank : ∀ names, files.fileAt? (cache.place ++ names) = none)
    (given : (call.perform engine cache (engine.after cache ⟨files, sent⟩ calls)).1 =
      .ok (body, .cache)) :
    body.isEmpty = false ∧
      ∃ names deposit, call.file? engine = some names ∧
        lastDeposit? names (engine.history cache ⟨files, sent⟩ calls) = some deposit ∧
        deposit.body = body ∧ call.now.total - deposit.time.total ≤ engine.ttl.total := by
  have cached := Call.perform_cache given
  rw [Call.slot?_around] at cached
  cases keyed : engine.entryKey? (call.params.entryName call.start) with
  | none => simp [keyed, cached?] at cached
  | some key =>
    rw [keyed, Option.map_some, cached?_eq_some_iff] at cached
    obtain ⟨filled, entry⟩ := cached
    obtain ⟨names, named, made, file, fresh⟩ := PayloadStore.freshEntry_eq_some_iff.mp entry
    rw [fileAt?_after, blank] at file
    refine ⟨filled, names, ?_⟩
    cases stored : lastDeposit? names (engine.history cache ⟨files, sent⟩ calls) with
    | none => simp [stored] at file
    | some deposit =>
      simp only [stored, Option.some.injEq, Prod.mk.injEq] at file
      obtain ⟨rfl, rfl⟩ := file
      refine ⟨deposit, ?_, rfl, rfl, Instant.total_sub_le call.plain engine.ttl fresh⟩
      simp [Call.file?, file?, keyed, named, Except.toOption]

/-- An engine whose payloads stay fresh for a minute. -/
def minuteEngine : Engine where
  name := "s"
  baseUrl := { scheme := "http", host := some "h", path := .segments [] }
  ttl := ⟨60, 0⟩

/-- The endpoint that is the base URL itself. -/
def baseEndpoint : Endpoint where
  definition := {}
  schema := .channel
  root := ⟨"", [], none⟩
  mappings := []
  method := "GET"

/-- Fetches the base URL of an engine, which is answered with a single byte. -/
def baseCall (answer : UInt8) (seconds : Int) : Call where
  endpoint := baseEndpoint
  params := {}
  start := "list"
  reader := none
  transport _ := .ok ⟨200, ⟨#[answer]⟩⟩
  now := ⟨seconds, 0⟩
  plain := Instant.isPlain_zero seconds

/-- A cache in a directory of its own. -/
def ownCache : PayloadStore := ⟨"c", ["c"]⟩

/-- Half a minute later the answer is another one, and the cache gives the first one. -/
theorem payload_from_cache_twice :
    let before := minuteEngine.after ownCache ⟨.empty ⟨0, 0⟩, []⟩ [baseCall 1 0]
    ((baseCall 2 30).perform minuteEngine ownCache before).1 = .ok (⟨#[1]⟩, .cache) ∧
      (⟨#[1]⟩ : ByteArray).isEmpty = false ∧
      ∃ names deposit, (baseCall 2 30).file? minuteEngine = some names ∧
        lastDeposit? names (minuteEngine.history ownCache ⟨.empty ⟨0, 0⟩, []⟩ [baseCall 1 0]) =
          some deposit ∧
        deposit.body = ⟨#[1]⟩ ∧
        (baseCall 2 30).now.total - deposit.time.total ≤ minuteEngine.ttl.total := by
  intro before
  have given : ((baseCall 2 30).perform minuteEngine ownCache before).1 =
      .ok (⟨#[1]⟩, .cache) := toOption_eq_some_iff.mp (by decide +kernel)
  exact ⟨given, payload_from_cache _ _ (fun _ => FileTree.fileAt?_empty _ _) given⟩

end Engine

end CatalogFeeds
