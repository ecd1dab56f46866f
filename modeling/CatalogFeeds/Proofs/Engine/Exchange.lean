import CatalogFeeds.Proofs.Engine.Session
import CatalogFeeds.Proofs.Engine.Slot
/-!
What a call on an engine does, in one equation each.

A call is split into what it asks of the network, which depends neither on the cache nor on the
session (`exchange`), and what it does with the answer (`deposit`).

* `exchange_sent` — at most one request is sent.
* `fetchFresh_outcome`, `fetch_outcome`, `run_outcome` — the result of a call and the session
  after it. Every other statement about calls is derived from these three.
* `run_stores`, `run_of_file` — what a run has stored, and how it is found again.
-/

namespace CatalogFeeds.Engine

open CatalogFeeds.Time RunM

variable {α : Type} (engine : Engine) (around : Surroundings) (endpoint : Endpoint)
  (read : Json → Except ShapeError α) (params : Params) (start : String) (session : Session)

/-! ### The network -/

/-- The requests that fetching from the network sends, and the body of the answer. -/
def exchange (transport : Transport) (endpoint : Endpoint) (params : Params) :
    List Request × EndpointM ByteArray :=
  match engine.urlFor endpoint params with
  | .error error => ([], .error error)
  | .ok url =>
    match engine.requestFor endpoint params url with
    | .error error => ([], .error error)
    | .ok request =>
      match transport request with
      | .error error => ([request], .error error)
      | .ok response =>
        ([request],
          if 400 ≤ response.status then
            .error (.status response.status (Url.maskText url.render))
          else .ok response.body)

/-- A call sends at most one request. -/
theorem exchange_sent (transport : Transport) :
    (engine.exchange transport endpoint params).1.length ≤ 1 := by
  unfold exchange
  split
  · simp
  · split
    · simp
    · split <;> simp

theorem exchange_of_urlFor {transport : Transport} {error : EndpointError}
    (h : engine.urlFor endpoint params = .error error) :
    engine.exchange transport endpoint params = ([], .error error) := by
  simp [exchange, h]

variable {engine endpoint params} in
theorem exchange_of_request {transport : Transport} {url : Url} {request : Request}
    (located : engine.urlFor endpoint params = .ok url)
    (asked : engine.requestFor endpoint params url = .ok request) :
    (engine.exchange transport endpoint params).1 = [request] := by
  simp only [exchange, located, asked]
  cases transport request <;> rfl

variable {engine endpoint params} in
/-- A body comes from the one request that was sent, whose answer was no error. -/
theorem exchange_ok {transport : Transport} {sent : List Request} {body : ByteArray}
    (h : engine.exchange transport endpoint params = (sent, .ok body)) :
    ∃ request response, sent = [request] ∧ transport request = .ok response ∧
      ¬ 400 ≤ response.status ∧ response.body = body := by
  unfold exchange at h
  split at h
  · simp at h
  · split at h
    · simp at h
    · rename_i request _
      split at h
      · simp at h
      · rename_i response answered
        by_cases refused : 400 ≤ response.status
        · simp [refused] at h
        · simp only [refused, if_false, Prod.mk.injEq, Except.ok.injEq] at h
          exact ⟨request, response, h.1.symm, answered, refused, h.2⟩

variable {engine endpoint params} in
/-- Where there is no body, no request was sent or its answer was an error. -/
theorem exchange_error {transport : Transport} {sent : List Request} {error : EndpointError}
    (h : engine.exchange transport endpoint params = (sent, .error error)) :
    sent = [] ∨ ∃ request, sent = [request] ∧
      ∀ response, transport request = .ok response → 400 ≤ response.status := by
  unfold exchange at h
  split at h
  · simp only [Prod.mk.injEq] at h
    exact .inl h.1.symm
  · split at h
    · simp only [Prod.mk.injEq] at h
      exact .inl h.1.symm
    · rename_i request _
      right
      split at h
      · rename_i failed
        simp only [Prod.mk.injEq] at h
        exact ⟨request, h.1.symm, by simp [failed]⟩
      · rename_i response answered
        by_cases refused : 400 ≤ response.status
        · simp only [refused, if_true, Prod.mk.injEq] at h
          refine ⟨request, h.1.symm, fun other same => ?_⟩
          rw [answered, Except.ok.injEq] at same
          exact same ▸ refused
        · simp [refused] at h

/-! ### Calls -/

theorem store_outcome (slot : Option (PayloadStore × List String)) (body : ByteArray)
    (storage : Storage) :
    (store around slot body storage).outcome session =
      (.ok (deposit around slot session.files body storage).1,
        { session with files := (deposit around slot session.files body storage).2 }) := by
  cases slot with
  | none => rfl
  | some slot =>
    obtain ⟨cache, entry⟩ := slot
    simp only [store, deposit, outcome_bind, outcome_get, outcome_set]
    rcases cache.write around.now session.files entry body storage with ⟨_ | _, _⟩ <;> rfl

theorem send_outcome (request : Request) :
    (send around request).outcome session =
      (around.transport request, { session with sent := session.sent ++ [request] }) := by
  simp only [send, outcome_bind, outcome_modify]
  cases around.transport request <;> rfl

theorem fetchFresh_outcome (storage : Storage) :
    (engine.fetchFresh around endpoint params start storage).outcome session =
      match engine.exchange around.transport endpoint params with
      | (sent, .error error) => (.error error, { session with sent := session.sent ++ sent })
      | (sent, .ok body) =>
        let stored := deposit around (engine.slot? around params start) session.files body storage
        (.ok stored.1, { files := stored.2, sent := session.sent ++ sent }) := by
  unfold fetchFresh exchange
  simp only [outcome_bind, outcome_lift]
  cases engine.urlFor endpoint params with
  | error error => simp
  | ok url =>
    simp only
    cases engine.requestFor endpoint params url with
    | error error => simp
    | ok request =>
      simp only [send_outcome]
      cases around.transport request with
      | error error => rfl
      | ok response =>
        simp only
        by_cases refused : 400 ≤ response.status
        · simp [refused]
        · simp [refused, store_outcome, slot?]

theorem fetch_outcome (storage : Storage) :
    (engine.fetch around endpoint params start storage).outcome session =
      match engine.urlFor endpoint params with
      | .error error => (.error error, session)
      | .ok _ =>
        match engine.cached? around session.files (engine.slot? around params start) with
        | some body => (.ok { body, origin := .cache }, session)
        | none => (engine.fetchFresh around endpoint params start storage).outcome session := by
  unfold fetch
  simp only [outcome_bind, outcome_lift, outcome_get, slot?]
  cases engine.urlFor endpoint params with
  | error error => rfl
  | ok url =>
    simp only
    cases engine.cached? around session.files
      (engine.cacheSlot? around (params.entryName start)) <;> rfl

/-- A run that goes to the network. -/
def runFresh (storage : Storage := .sound) : RunM (Harvest α) := do
  let payload ← engine.fetchFresh around endpoint params start storage
  let records ← engine.decode endpoint read payload.body
  return finish payload records

/-- The fresh payload of a call, if it can still be decoded, and its records. -/
def usable? (files : FileTree) : Option (ByteArray × List α) :=
  match engine.cached? around files (engine.slot? around params start) with
  | none => none
  | some body => (engine.decode endpoint read body).toOption.map (body, ·)

theorem runFresh_outcome (storage : Storage) :
    (engine.runFresh around endpoint read params start storage).outcome session =
      match engine.exchange around.transport endpoint params with
      | (sent, .error error) => (.error error, { session with sent := session.sent ++ sent })
      | (sent, .ok body) =>
        let stored := deposit around (engine.slot? around params start) session.files body storage
        ((engine.decode endpoint read body).map (finish stored.1),
          { files := stored.2, sent := session.sent ++ sent }) := by
  unfold runFresh
  simp only [outcome_bind, fetchFresh_outcome, outcome_lift]
  rcases engine.exchange around.transport endpoint params with ⟨sent, error | body⟩
  · rfl
  · simp only [deposit_body]
    cases engine.decode endpoint read body <;> rfl

/-- **What a run does.** A fresh payload that can be decoded answers it; everything else is
answered by the network. -/
theorem run_outcome (storage : Storage) :
    (engine.run around endpoint read params start storage).outcome session =
      match engine.urlFor endpoint params with
      | .error error => (.error error, session)
      | .ok _ =>
        match engine.usable? around endpoint read params start session.files with
        | some (body, records) => (.ok (finish { body, origin := .cache } records), session)
        | none => (engine.runFresh around endpoint read params start storage).outcome session := by
  unfold run usable?
  simp only [outcome_bind, fetch_outcome]
  cases engine.urlFor endpoint params with
  | error error => rfl
  | ok url =>
    simp only
    cases engine.cached? around session.files (engine.slot? around params start) with
    | some body =>
      simp only
      cases decoded : engine.decode endpoint read body with
      | ok records => simp [Except.toOption]
      | error error => simp [Except.toOption, runFresh]
    | none =>
      simp only [fetchFresh_outcome, runFresh_outcome]
      rcases engine.exchange around.transport endpoint params with ⟨sent, error | body⟩
      · rfl
      · simp only [deposit_body, deposit_origin]
        cases engine.decode endpoint read body <;> rfl

/-! ### What comes from the cache -/

/-- A payload that is fetched from the cache is what the cache has. -/
theorem fetch_cache {payload : Payload}
    (h : ((engine.fetch around endpoint params start).outcome session).1 = .ok payload)
    (origin : payload.origin = .cache) :
    engine.cached? around session.files (engine.slot? around params start) =
      some payload.body := by
  rw [fetch_outcome] at h
  split at h
  · simp at h
  · split at h
    · rename_i body cached
      rw [Except.ok.injEq] at h
      rw [cached, ← h]
    · rw [fetchFresh_outcome] at h
      rcases exchanged : engine.exchange around.transport endpoint params with ⟨sent, error | body⟩
      · simp [exchanged] at h
      · simp only [exchanged, Except.ok.injEq] at h
        rw [← h, deposit_origin] at origin
        contradiction

/-- The payload of a run that the cache answers is what the cache has. -/
theorem run_cache {harvest : Harvest α}
    (h : ((engine.run around endpoint read params start).outcome session).1 = .ok harvest)
    (origin : harvest.origin = .cache) :
    engine.cached? around session.files (engine.slot? around params start) =
      some harvest.raw := by
  rw [run_outcome] at h
  split at h
  · simp at h
  · split at h
    · rename_i body records usable
      rw [Except.ok.injEq] at h
      rw [← h, finish]
      unfold usable? at usable
      split at usable
      · simp at usable
      · rename_i stored cached
        cases decoded : engine.decode endpoint read stored with
        | error error => simp [decoded, Except.toOption] at usable
        | ok found =>
          simp only [decoded, Except.toOption, Option.map_some, Option.some.injEq,
            Prod.mk.injEq] at usable
          rw [cached, usable.1]
    · rw [runFresh_outcome] at h
      rcases exchanged : engine.exchange around.transport endpoint params with ⟨sent, error | body⟩
      · simp [exchanged] at h
      · simp only [exchanged] at h
        cases decoded : engine.decode endpoint read body with
        | error error => simp [decoded, Except.map] at h
        | ok records =>
          simp only [decoded, Except.map, finish, Except.ok.injEq] at h
          rw [← h, deposit_origin] at origin
          contradiction

/-! ### The session after a call -/

/-- The session after the network was asked. -/
def settled : Session :=
  match engine.exchange around.transport endpoint params with
  | (sent, .error _) => { session with sent := session.sent ++ sent }
  | (sent, .ok body) =>
    { files := (deposit around (engine.slot? around params start) session.files body).2
      sent := session.sent ++ sent }

theorem runFresh_session :
    ((engine.runFresh around endpoint read params start).outcome session).2 =
      engine.settled around endpoint params start session := by
  rw [runFresh_outcome, settled]
  rcases engine.exchange around.transport endpoint params with ⟨sent, error | body⟩ <;> rfl

theorem runFresh_sent :
    ((engine.runFresh around endpoint read params start).outcome session).2.sent =
      session.sent ++ (engine.exchange around.transport endpoint params).1 := by
  rw [runFresh_session, settled]
  rcases engine.exchange around.transport endpoint params with ⟨sent, error | body⟩ <;> rfl

/-- A call leaves the session as it is, or asks the network. -/
theorem fetch_session :
    ((engine.fetch around endpoint params start).outcome session).2 = session ∨
      ((engine.fetch around endpoint params start).outcome session).2 =
        engine.settled around endpoint params start session := by
  rw [fetch_outcome, settled]
  split
  · exact .inl rfl
  · split
    · exact .inl rfl
    · right
      rw [fetchFresh_outcome]
      rcases engine.exchange around.transport endpoint params with ⟨sent, error | body⟩ <;> rfl

theorem run_session :
    ((engine.run around endpoint read params start).outcome session).2 = session ∨
      ((engine.run around endpoint read params start).outcome session).2 =
        engine.settled around endpoint params start session := by
  rw [run_outcome]
  split
  · exact .inl rfl
  · split
    · exact .inl rfl
    · exact .inr (engine.runFresh_session around endpoint read params start session)

variable {engine around endpoint params start} in
theorem cache_of_usable? {files : FileTree} {found : ByteArray × List α}
    (h : engine.usable? around endpoint read params start files = some found) :
    around.cache.isSome := by
  cases cache : around.cache with
  | some store => rfl
  | none => simp [usable?, slot?, cacheSlot?, cached?, cache] at h

variable {engine endpoint params} in
/-- A run sends the request of its endpoint, unless the cache answers it. -/
theorem run_sent {url : Url} {request : Request}
    (located : engine.urlFor endpoint params = .ok url)
    (asked : engine.requestFor endpoint params url = .ok request) :
    let after := (engine.run around endpoint read params start).outcome session
    after.2.sent = session.sent ++ [request] ∨
      around.cache.isSome ∧ after.2 = session ∧ ∃ harvest, after.1 = .ok harvest := by
  simp only [run_outcome, located]
  cases usable : engine.usable? around endpoint read params start session.files with
  | some found => exact .inr ⟨cache_of_usable? read usable, rfl, _, rfl⟩
  | none => exact .inl (by rw [runFresh_sent, exchange_of_request located asked])

/-! ### Stored and found again -/

variable {engine around endpoint read params start session} in
/-- A run that comes from the network and reports no failure has stored its payload. -/
theorem run_stores {harvest : Harvest α} {cache : PayloadStore} {key : List String}
    (slot : engine.slot? around params start = some (cache, key))
    (h : ((engine.run around endpoint read params start).outcome session).1 = .ok harvest)
    (origin : harvest.origin = .network) (stored : harvest.storeError = none) :
    engine.decode endpoint read harvest.raw = .ok harvest.records ∧
      ∃ names, PayloadStore.fileNames key = .ok names ∧
        ((engine.run around endpoint read params start).outcome session).2.files.fileAt?
          (cache.place ++ names) = some (harvest.raw, around.now) := by
  rw [run_outcome] at h ⊢
  split at h
  · simp at h
  · split at h
    · rw [← Except.ok.inj h, finish] at origin
      contradiction
    · rw [runFresh_outcome, slot] at h ⊢
      rcases exchanged : engine.exchange around.transport endpoint params with ⟨sent, error | body⟩
      · simp [exchanged] at h
      · simp only [exchanged] at h ⊢
        obtain ⟨records, decoded, rfl⟩ := map_eq_ok_iff.mp h
        simp only [finish, deposit_body] at stored ⊢
        refine ⟨decoded, ?_⟩
        cases written : (cache.write around.now session.files key body).1 with
        | error error =>
          rw [deposit] at stored
          rcases step : cache.write around.now session.files key body with ⟨_ | _, _⟩ <;>
            simp_all
        | ok names =>
          obtain ⟨named, shown⟩ := PayloadStore.write_stores written
          refine ⟨names, named, ?_⟩
          simpa [deposit_files] using shown (cache.place ++ names)

variable {engine around endpoint read params start session} in
/-- A run is answered by a file that is fresh, not empty and can be decoded. -/
theorem run_of_file {url : Url} {cache : PayloadStore} {key names : List String}
    {body : ByteArray} {made : Instant} {records : List α}
    (located : engine.urlFor endpoint params = .ok url)
    (slot : engine.slot? around params start = some (cache, key))
    (named : PayloadStore.fileNames key = .ok names)
    (file : session.files.fileAt? (cache.place ++ names) = some (body, made))
    (fresh : made.isBefore (engine.staleBefore around.now) = false)
    (filled : body.isEmpty = false)
    (decoded : engine.decode endpoint read body = .ok records) :
    (engine.run around endpoint read params start).outcome session =
      (.ok { records, raw := body, origin := .cache }, session) := by
  have found : cache.freshEntry session.files key (engine.staleBefore around.now) =
      .ok (some body) :=
    PayloadStore.freshEntry_eq_some_iff.mpr ⟨names, named, made, file, fresh⟩
  have cached : engine.cached? around session.files (some (cache, key)) = some body :=
    (engine.cached?_eq_some_iff around).mpr ⟨filled, found⟩
  rw [run_outcome, located]
  simp [usable?, slot, cached, decoded, Except.toOption, finish]

end CatalogFeeds.Engine
