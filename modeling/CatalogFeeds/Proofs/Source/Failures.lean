import CatalogFeeds.Proofs.Source.Uncached
/-!
What failures of listings and sources do.

A listing that fails leaves its error and takes nothing from the others; a source all of whose
listings fail leaves its errors and takes nothing from the other sources.

* `gather_uncached` — what is merged and reported of several sources, told by what the listings of
  each give on their own.
* `gaveNothing_yield_iff`, `failed_tally_iff` — the two ways to call a source failed agree: it has
  listings, and all of them fail.
* `failures_contained` — what one source gives, and what is merged and reported of several.
-/

namespace CatalogFeeds

open CatalogFeeds.Time RunM

/-! ### Counting -/

theorem Collected.total_eq (collected : Collected) :
    collected.total = (collected.lists.flatMap (·.channels)).length := by
  have counted (lists : List ChannelBatch) (count : Nat) :
      lists.foldl (fun count list => count + list.channels.length) count =
        count + (lists.flatMap (·.channels)).length := by
    induction lists generalizing count with
    | nil => rfl
    | cons list rest ih =>
      rw [List.foldl_cons, ih, List.flatMap_cons, List.length_append, Nat.add_assoc]
  rw [total, counted, Nat.zero_add]

/-- Every report is counted once. -/
theorem Roundup.fetched_add_failed (summary : Roundup) :
    summary.fetched + summary.failed = summary.reports.length := by
  rw [fetched, failed, Nat.add_comm]
  exact (List.length_eq_length_filter_add SourceTally.failed).symm

/-! ### Sources that fail -/

namespace Source

variable (source : Source) (around : Surroundings)

/-- A source with listings, none of which succeeds. -/
def AllFail : Prop :=
  source.listings ≠ [] ∧
    ∀ listing ∈ source.listings, ∃ error, source.alone around listing = .error error

/-- What is to be reported of a source. -/
def tally : SourceTally where
  source := source.name
  lists := (source.yield around).lists.length
  channels := ((source.yield around).lists.flatMap (·.channels)).length
  errors := (source.yield around).errors

theorem report_yield : Roster.report source.name (source.yield around) = source.tally around := by
  rw [Roster.report, Collected.total_eq, tally]

theorem lists_yield_eq_nil_iff :
    (source.yield around).lists = [] ↔
      ∀ listing ∈ source.listings, ∃ error, source.alone around listing = .error error := by
  refine List.filterMap_eq_nil_iff.trans (forall₂_congr fun listing _ => ?_)
  cases source.alone around listing <;> simp [Except.toOption]

theorem errors_yield_eq_nil_iff :
    (source.yield around).errors = [] ↔
      ∀ listing ∈ source.listings, ∃ list, source.alone around listing = .ok list := by
  refine List.filterMap_eq_nil_iff.trans (forall₂_congr fun listing _ => ?_)
  cases source.alone around listing <;> simp [failure?]

variable {source around}

/-- **A source fails** if there is nothing but errors. -/
theorem allFail_iff :
    source.AllFail around ↔
      (source.yield around).lists = [] ∧ (source.yield around).errors ≠ [] := by
  rw [AllFail, lists_yield_eq_nil_iff, and_comm]
  refine and_congr_right fun fails => not_congr ?_
  rw [errors_yield_eq_nil_iff]
  constructor
  · intro none listing mem
    rw [none] at mem
    exact absurd mem List.not_mem_nil
  · intro succeeds
    refine List.eq_nil_iff_forall_not_mem.mpr fun listing mem => ?_
    obtain ⟨error, failed⟩ := fails listing mem
    obtain ⟨list, gave⟩ := succeeds listing mem
    rw [failed] at gave
    contradiction

theorem gaveNothing_yield_iff :
    (source.yield around).gaveNothing = true ↔ source.AllFail around := by
  rw [allFail_iff]
  simp [Collected.gaveNothing]

theorem failed_tally_iff : (source.tally around).failed = true ↔ source.AllFail around := by
  rw [allFail_iff]
  simp [SourceTally.failed, tally]

/-- **A listing that fails** takes nothing from the others and adds its error to theirs. -/
theorem yield_of_failed {front back : List Listing} {listing : Listing} {error : EndpointError}
    (split : source.listings = front ++ listing :: back)
    (failed : source.alone around listing = .error error) :
    let others := { source with listings := front ++ back }
    (source.yield around).lists = (others.yield around).lists ∧
      (source.yield around).errors.Perm (error :: (others.yield around).errors) := by
  have same (rest : List Listing) :
      ({ source with listings := rest } : Source).alone around = source.alone around := rfl
  simp only [yield, split, same, List.filterMap_append, List.filterMap_cons, failed,
    Except.toOption, failure?]
  exact ⟨trivial, List.perm_middle⟩

end Source

/-! ### Several sources -/

theorem Roster.gather_summary (roster : Roster) (around : Surroundings) (session : Session) :
    ((roster.gather around).run session).1.2 =
      ⟨(roster.findings around session).map fun finding =>
        report finding.source.name finding.collected⟩ := by
  have reported : ((roster.gather around).run session).1.2 =
      ⟨((collectAll around roster.sources).run session).1.map fun given =>
        report given.1 given.2⟩ := rfl
  rw [reported, collectAll_eq, List.map_map, findings]
  rfl

variable {upstream : Transport} {now : Instant}

/-- **What several sources give without a cache.** -/
theorem Roster.gather_uncached (sources : List Source) (session : Session) :
    ((Roster.gather ⟨sources⟩ (.uncached upstream now)).run session).1 =
      (.merge (sources.flatMap fun source => (source.yield (.uncached upstream now)).lists),
        ⟨sources.map (·.tally (.uncached upstream now))⟩) := by
  refine Prod.ext ?_ ?_
  · rw [gather_channels, findings_uncached, List.flatMap_map]
  · have reports := List.map_congr_left fun source (_ : source ∈ sources) =>
      source.report_yield (.uncached upstream now)
    rw [gather_summary, findings_uncached, List.map_map, ← reports]
    rfl

/-! ### The main statement -/

/-- **Failures are contained.** Without a cache a listing gives the same whenever it is run. So a
source gives the lists of the listings that succeed and the errors of the others, in their order,
and a listing that fails leaves what the others give. Of several sources all these lists are
merged; each source has one report with its counts and is called failed exactly if it has listings
and none of them succeeds; every error is listed once with its source; and without a failed source
the merged channels are the same. -/
theorem failures_contained (upstream : Transport) (now : Instant) :
    let around := Surroundings.uncached upstream now
    (∀ (source : Source) (listing : Listing) (session : Session),
      ((source.channelsFrom around listing.endpoint {} listing.entryName).outcome session).1 =
        source.alone around listing) ∧
    (∀ (source : Source) (session : Session),
      ((source.collect around).run session).1 =
        { lists := source.listings.filterMap fun listing =>
            (source.alone around listing).toOption
          errors := source.listings.filterMap fun listing =>
            failure? (source.alone around listing) }) ∧
    (∀ (source : Source) (front : List Listing) (listing : Listing) (back : List Listing)
      (error : EndpointError),
      source.listings = front ++ listing :: back → source.alone around listing = .error error →
      let others := { source with listings := front ++ back }
      (source.yield around).lists = (others.yield around).lists ∧
        (source.yield around).errors.Perm (error :: (others.yield around).errors)) ∧
    ∀ (sources : List Source) (session : Session),
      let gathered := ((Roster.gather ⟨sources⟩ around).run session).1
      gathered.1 = .merge (sources.flatMap fun source => (source.yield around).lists) ∧
      gathered.2.reports = sources.map (·.tally around) ∧
      (∀ source ∈ sources,
        ((source.tally around).failed = true ↔ source.AllFail around) ∧
          ((source.yield around).gaveNothing = true ↔ source.AllFail around)) ∧
      gathered.2.fetched + gathered.2.failed = sources.length ∧
      gathered.2.errors = (sources.flatMap fun source =>
        (source.yield around).errors.map fun error => (source.name, error)) ∧
      ∀ (front : List Source) (source : Source) (back : List Source) (session' : Session),
        sources = front ++ source :: back →
        (∀ listing ∈ source.listings, ∃ error, source.alone around listing = .error error) →
        ((Roster.gather ⟨front ++ back⟩ around).run session').1.1 = gathered.1 := by
  intro around
  refine ⟨fun source listing session => source.channelsFrom_uncached _ _ _ session _,
    fun source session => source.collect_uncached session,
    fun source front listing back error => Source.yield_of_failed, fun sources session => ?_⟩
  rw [Roster.gather_uncached]
  refine ⟨rfl, rfl, fun source _ => ⟨Source.failed_tally_iff, Source.gaveNothing_yield_iff⟩,
    ?_, ?_, ?_⟩
  · rw [Roundup.fetched_add_failed, List.length_map]
  · rw [Roundup.errors, List.flatMap_map]
    rfl
  · rintro front source back other rfl fails
    have none := (source.lists_yield_eq_nil_iff around).mpr fails
    rw [Roster.gather_uncached, List.flatMap_append, List.flatMap_append, List.flatMap_cons, none,
      List.nil_append]

/-- A source with one listing. -/
def listingSource (name : String) : Source where
  engine := {
    name
    baseUrl := { scheme := "http", host := some name, path := .segments [] }
    ttl := ⟨60, 0⟩ }
  kind := .generic
  listings := [⟨"all", "list", ⟨{}, .channel, ⟨"", [], none⟩, [], "GET"⟩⟩]
  episodeListing := none
  titleSearch := none

/-- A catalogue with one channel, which only one host gets. -/
def hostTransport (host : String) : Transport := fun request =>
  .ok ⟨if request.url.host = some host then 200 else 500,
    (Json.array [.ofEntries []]).render.toUTF8⟩

/-- Of two sources one fails, and the channel of the other is merged as if it were alone. -/
theorem failures_contained_one_host :
    let around := Surroundings.uncached (hostTransport "b") ⟨0, 0⟩
    (listingSource "a").AllFail around ∧ ∀ session,
      let gathered :=
        ((Roster.gather ⟨[listingSource "a", listingSource "b"]⟩ around).run session).1
      gathered.1.channels.map (·.origin.source) = ["b"] ∧ gathered.2.failed = 1 ∧
        ((Roster.gather ⟨[listingSource "b"]⟩ around).run session).1.1 = gathered.1 := by
  intro around
  have fails : ∀ listing ∈ (listingSource "a").listings,
      ∃ error, (listingSource "a").alone around listing = .error error := by
    rintro listing (- | ⟨-, ⟨⟩⟩)
    exact ⟨_, rfl⟩
  refine ⟨⟨List.cons_ne_nil _ _, fails⟩, fun session => ?_⟩
  obtain ⟨-, -, -, several⟩ := failures_contained (hostTransport "b") ⟨0, 0⟩
  obtain ⟨merged, reports, -, -, -, without⟩ :=
    several [listingSource "a", listingSource "b"] session
  refine ⟨?_, ?_, without [] (listingSource "a") [listingSource "b"] session rfl fails⟩
  · rw [merged]
    decide +kernel
  · rw [Roundup.failed, reports]
    decide +kernel

end CatalogFeeds
