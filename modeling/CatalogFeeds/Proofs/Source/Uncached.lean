import CatalogFeeds.Proofs.Source.Findings
/-!
Sources without a cache.

Without a cache nothing that a source is asked for depends on what was asked before: a catalogue
answers equal requests alike. So what a source gives is told by what each of its listings gives
when nothing else is run.

* `run_uncached`, `episodesOf_uncached` — a run gives the same on every session.
* `collect_uncached` — a source gives the lists of the listings that succeed on their own, and the
  errors of the others.
* `findings_uncached` — and so do all sources together.
-/

namespace CatalogFeeds

open CatalogFeeds.Time RunM

/-- A catalogue that answers equal requests alike, and a clock, but no cache. -/
def Surroundings.uncached (upstream : Transport) (now : Instant) : Surroundings :=
  { transport := upstream, now }

/-- The error of a step that has failed. -/
def failure? {ε α : Type} (result : Except ε α) : Option ε :=
  match result with
  | .ok _ => none
  | .error error => some error

variable {upstream : Transport} {now : Instant}

/-- **A run without a cache** gives the same on every session. -/
theorem Engine.run_uncached {α : Type} (engine : Engine) (endpoint : Endpoint)
    (read : Json → Except ShapeError α) (params : Params) (start : String)
    (session session' : Session) :
    ((engine.run (.uncached upstream now) endpoint read params start).outcome session).1 =
      ((engine.run (.uncached upstream now) endpoint read params start).outcome session').1 := by
  have bare : Surroundings.uncached upstream now =
      { Surroundings.uncached upstream now with cache := none } := rfl
  rw [bare, run_bare_outcome, run_bare_outcome]
  rcases engine.exchange _ endpoint params with ⟨sent, error | body⟩ <;> rfl

namespace Source

variable (source : Source)

theorem channelsFrom_uncached (endpoint : Endpoint) (params : Params) (start : String)
    (session session' : Session) :
    ((source.channelsFrom (.uncached upstream now) endpoint params start).outcome session).1 =
      ((source.channelsFrom (.uncached upstream now) endpoint params start).outcome
        session').1 := by
  simp only [channelsFrom, outcome_bind_pure]
  rw [source.engine.run_uncached endpoint Channel.read params start session session']

/-- Asking for episodes without a cache gives the same on every session. -/
theorem episodesOf_uncached (id : String) (session session' : Session) :
    ((source.episodesOf (.uncached upstream now) id).outcome session).1 =
      ((source.episodesOf (.uncached upstream now) id).outcome session').1 := by
  cases offered : source.episodeListing with
  | none => simp only [episodesOf, offered, outcome_throw]
  | some endpoint =>
    simp only [episodesOf, offered]
    exact source.engine.run_uncached endpoint Episode.read _ _ session session'

/-! ### Listings on their own -/

/-- What a listing of a source gives when nothing else is run. -/
def alone (around : Surroundings) (listing : Listing) : Except EndpointError ChannelBatch :=
  ((source.channelsFrom around listing.endpoint {} listing.entryName).outcome
    { files := .empty around.now }).1

/-- What the listings of a source give when each is run on its own: the lists of those that
succeed, and the errors of the others. -/
def yield (around : Surroundings) : Collected where
  lists := source.listings.filterMap fun listing => (source.alone around listing).toOption
  errors := source.listings.filterMap fun listing => failure? (source.alone around listing)

theorem collectFrom_uncached (listings : List Listing) (session : Session) :
    ((source.collectFrom (.uncached upstream now) listings).run session).1 =
      { lists := listings.filterMap fun listing =>
          (source.alone (.uncached upstream now) listing).toOption
        errors := listings.filterMap fun listing =>
          failure? (source.alone (.uncached upstream now) listing) } := by
  induction listings generalizing session with
  | nil => rfl
  | cons listing rest ih =>
    have first : ((source.channelsFrom (.uncached upstream now) listing.endpoint {}
        listing.entryName).outcome session).1 = source.alone (.uncached upstream now) listing :=
      source.channelsFrom_uncached listing.endpoint {} listing.entryName session _
    rw [collectFrom_cons]
    simp only [first, ih]
    cases result : source.alone (.uncached upstream now) listing with
    | ok list => simp [addResult, result, Except.toOption, failure?]
    | error error => simp [addResult, result, Except.toOption, failure?]

/-- **A source gives what its listings give on their own**, whatever was run before. -/
theorem collect_uncached (session : Session) :
    ((source.collect (.uncached upstream now)).run session).1 =
      source.yield (.uncached upstream now) :=
  source.collectFrom_uncached source.listings session

end Source

/-- All sources give what each of them gives on its own. -/
theorem Roster.findings_uncached (roster : Roster) (session : Session) :
    roster.findings (.uncached upstream now) session =
      roster.sources.map fun source => ⟨source, source.yield (.uncached upstream now)⟩ := by
  rw [findings]
  induction roster.sources generalizing session with
  | nil => rfl
  | cons source rest ih => rw [findingsOf, List.map_cons, ih, source.collect_uncached]

end CatalogFeeds
