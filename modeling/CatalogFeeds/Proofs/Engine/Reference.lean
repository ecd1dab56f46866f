import CatalogFeeds.Proofs.Engine.Exchange
/-!
Runs of endpoints, with and without a cache.

`reference` says what a run is to give in terms of four things that each stand for themselves: the
URL, the entry that the cache has (`kept?`), the same run without a cache, and whether the payload
can be written (`storeFailure?`).

* `run_follows_reference` — a run gives exactly that, sends at most one request, none for what the
  cache gives, and always gives the records of the payload it gives.
-/

namespace CatalogFeeds.Engine

open RunM

variable {α : Type} (engine : Engine) (around : Surroundings) (endpoint : Endpoint)
  (read : Json → Except ShapeError α) (params : Params) (start : String) (session : Session)

/-- What the cache has for a call: the body of an entry that is fresh and not empty, and the
records in it. -/
def kept? (files : FileTree) : Option (ByteArray × List α) := do
  let cache ← around.cache
  let key ← engine.entryKey? (params.entryName start)
  match cache.freshEntry files key (engine.staleBefore around.now) with
  | .ok (some body) =>
    let records ← (engine.decode endpoint read body).toOption
    if body.isEmpty then none else some (body, records)
  | _ => none

/-- Why a body cannot be written to the cache, if there is one and the body is to be kept. -/
def storeFailure? (files : FileTree) (body : ByteArray) : Option StoreError := do
  let cache ← around.cache
  let key ← engine.entryKey? (params.entryName start)
  match (cache.write around.now files key body).1 with
  | .ok _ => none
  | .error error => some error

/-- What a run is to give. -/
def reference : Except EndpointError (Harvest α) :=
  match engine.urlFor endpoint params with
  | .error error => .error error
  | .ok _ =>
    match engine.kept? around endpoint read params start session.files with
    | some (body, records) => .ok { records, raw := body, origin := .cache }
    | none =>
      let bare := engine.run { around with cache := none } endpoint read params start
      (bare.outcome session).1.map fun harvest =>
        { records := harvest.records
          raw := harvest.raw
          origin := .network
          storeError := engine.storeFailure? around params start session.files harvest.raw }

/-! ### The parts of the reference -/

theorem usable?_eq_kept? (files : FileTree) :
    engine.usable? around endpoint read params start files =
      engine.kept? around endpoint read params start files := by
  unfold usable? kept? slot? cacheSlot?
  cases around.cache with
  | none => rfl
  | some cache =>
    cases engine.entryKey? (params.entryName start) with
    | none => rfl
    | some key =>
      simp only [cached?, Option.bind_eq_bind, Option.bind_some, Option.pure_def]
      cases cache.freshEntry files key (engine.staleBefore around.now) with
      | error error => rfl
      | ok found =>
        cases found with
        | none => rfl
        | some body =>
          simp only
          cases body.isEmpty <;> cases decoded : engine.decode endpoint read body <;>
            simp [Except.toOption, decoded]

theorem deposit_storeError (files : FileTree) (body : ByteArray) :
    (deposit around (engine.slot? around params start) files body).1.storeError =
      engine.storeFailure? around params start files body := by
  unfold deposit storeFailure? slot? cacheSlot?
  cases around.cache with
  | none => rfl
  | some cache =>
    cases engine.entryKey? (params.entryName start) with
    | none => rfl
    | some key =>
      simp only [Option.bind_eq_bind, Option.bind_some, Option.pure_def]
      rcases cache.write around.now files key body with ⟨_ | _, _⟩ <;> rfl

/-- Without a cache a run is the exchange with the network, and the files stay as they are. -/
theorem run_bare_outcome :
    (engine.run { around with cache := none } endpoint read params start).outcome session =
      match engine.exchange around.transport endpoint params with
      | (sent, .error error) => (.error error, { session with sent := session.sent ++ sent })
      | (sent, .ok body) =>
        ((engine.decode endpoint read body).map fun records =>
            { records, raw := body, origin := .network },
          { session with sent := session.sent ++ sent }) := by
  rw [run_outcome]
  cases located : engine.urlFor endpoint params with
  | error error => simp [engine.exchange_of_urlFor endpoint params located]
  | ok url =>
    simp only [usable?, slot?, cacheSlot?, Option.bind_eq_bind, Option.bind_none, cached?,
      runFresh_outcome, deposit]
    rcases engine.exchange around.transport endpoint params with ⟨sent, error | body⟩
    · rfl
    · cases engine.decode endpoint read body <;> rfl

/-- A run that goes to the network gives what it gives without a cache, with the reason why the
payload was not written. -/
theorem runFresh_eq_bare :
    ((engine.runFresh around endpoint read params start).outcome session).1 =
      ((engine.run { around with cache := none } endpoint read params start).outcome
          session).1.map fun harvest =>
        { records := harvest.records
          raw := harvest.raw
          origin := .network
          storeError := engine.storeFailure? around params start session.files harvest.raw } := by
  rw [runFresh_outcome, run_bare_outcome]
  rcases engine.exchange around.transport endpoint params with ⟨sent, error | body⟩
  · rfl
  · simp only
    cases engine.decode endpoint read body with
    | error error => rfl
    | ok records => simp [Except.map, finish, deposit_storeError]

/-- What comes from the network has the records of its payload, and comes from the network. -/
theorem runFresh_ok {harvest : Harvest α}
    (h : ((engine.runFresh around endpoint read params start).outcome session).1 = .ok harvest) :
    engine.decode endpoint read harvest.raw = .ok harvest.records ∧ harvest.origin = .network := by
  rw [runFresh_outcome] at h
  rcases exchanged : engine.exchange around.transport endpoint params with ⟨sent, error | body⟩
  · simp [exchanged] at h
  · simp only [exchanged] at h
    cases decoded : engine.decode endpoint read body with
    | error error => simp [decoded, Except.map] at h
    | ok records =>
      simp only [decoded, Except.map, finish, deposit_body, deposit_origin, Except.ok.injEq] at h
      subst h
      exact ⟨decoded, rfl⟩

theorem kept?_decodes {files : FileTree} {body : ByteArray} {records : List α}
    (h : engine.kept? around endpoint read params start files = some (body, records)) :
    engine.decode endpoint read body = .ok records := by
  rw [← usable?_eq_kept?, usable?] at h
  split at h
  · simp at h
  · rename_i stored _
    cases decoded : engine.decode endpoint read stored with
    | error error => simp [decoded, Except.toOption] at h
    | ok found =>
      simp only [decoded, Except.toOption, Option.map_some, Option.some.injEq,
        Prod.mk.injEq] at h
      obtain ⟨rfl, rfl⟩ := h
      exact decoded

/-- The records of a run are those of the payload that it gives. -/
theorem run_decodes {harvest : Harvest α}
    (h : ((engine.run around endpoint read params start).outcome session).1 = .ok harvest) :
    engine.decode endpoint read harvest.raw = .ok harvest.records := by
  rw [run_outcome] at h
  split at h
  · simp at h
  · split at h
    · rename_i body records usable
      rw [usable?_eq_kept?] at usable
      rw [← Except.ok.inj h]
      exact engine.kept?_decodes around endpoint read params start usable
    · exact (engine.runFresh_ok around endpoint read params start session h).1

/-! ### The main statement -/

/-- **A run follows the reference**, sends at most one request, leaves the session alone where
the cache answers, and gives the records of the payload it gives. -/
theorem run_follows_reference :
    ((engine.run around endpoint read params start).outcome session).1 =
        engine.reference around endpoint read params start session ∧
      (∃ requests, requests.length ≤ 1 ∧
        ((engine.run around endpoint read params start).outcome session).2.sent =
          session.sent ++ requests) ∧
      ∀ harvest, ((engine.run around endpoint read params start).outcome session).1 =
          .ok harvest →
        engine.decode endpoint read harvest.raw = .ok harvest.records ∧
          (harvest.origin = .cache →
            ((engine.run around endpoint read params start).outcome session).2 = session) := by
  rw [run_outcome, reference, ← usable?_eq_kept?]
  cases engine.urlFor endpoint params with
  | error error => exact ⟨rfl, ⟨[], by simp⟩, by simp⟩
  | ok url =>
    simp only
    cases usable : engine.usable? around endpoint read params start session.files with
    | some kept =>
      obtain ⟨body, records⟩ := kept
      refine ⟨rfl, ⟨[], by simp⟩, ?_⟩
      simp only [finish, Except.ok.injEq]
      rintro harvest rfl
      rw [usable?_eq_kept?] at usable
      exact ⟨engine.kept?_decodes around endpoint read params start usable, fun _ => trivial⟩
    | none =>
      refine ⟨engine.runFresh_eq_bare around endpoint read params start session,
        ⟨_, engine.exchange_sent endpoint params around.transport,
          engine.runFresh_sent around endpoint read params start session⟩, ?_⟩
      intro harvest ok
      obtain ⟨decodes, network⟩ :=
        engine.runFresh_ok around endpoint read params start session ok
      refine ⟨decodes, fun cached => ?_⟩
      rw [network] at cached
      contradiction

end CatalogFeeds.Engine
