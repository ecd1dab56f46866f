import CatalogFeeds.Source.Basic
/-!
Several sources together.

The channels of all sources are merged in the order of the sources. A report for each source
says how many lists and channels it gave and what went wrong.
-/

namespace CatalogFeeds

/-- What a source has given. -/
structure SourceTally where
  source : String
  lists : Nat
  channels : Nat
  errors : List EndpointError
  deriving DecidableEq

/-- Whether a source has given nothing but errors. -/
def SourceTally.failed (report : SourceTally) : Bool :=
  report.lists == 0 && !report.errors.isEmpty

/-- What every source has given. -/
structure Roundup where
  reports : List SourceTally := []
  deriving DecidableEq

namespace Roundup

/-- How many sources have given something. -/
def fetched (summary : Roundup) : Nat :=
  (summary.reports.filter (!·.failed)).length

/-- How many sources have given nothing but errors. -/
def failed (summary : Roundup) : Nat :=
  (summary.reports.filter (·.failed)).length

/-- Every error with the name of its source. -/
def errors (summary : Roundup) : List (String × EndpointError) :=
  summary.reports.flatMap fun report => report.errors.map (report.source, ·)

/-- The sentence that sums a run up. -/
def text (summary : Roundup) : String :=
  toString summary.fetched ++ " sources fetched, " ++ toString summary.failed ++ " failed"

end Roundup

/-- The sources of a program, in the order of its settings. -/
structure Roster where
  sources : List Source

namespace Roster

/-- The source of a name. -/
def source? (roster : Roster) (name : String) : Option Source :=
  roster.sources.find? (·.name == name)

/-- Collects the channels of sources, in order. -/
def collectAll (around : Surroundings) :
    List Source → StateM Session (List (String × Collected))
  | [] => return []
  | source :: rest => do
    let collected ← source.collect around
    return (source.name, collected) :: (← collectAll around rest)

/-- The report about a source. -/
def report (name : String) (collected : Collected) : SourceTally where
  source := name
  lists := collected.lists.length
  channels := collected.total
  errors := collected.errors

/-- The merged channels of all sources, and what each of them has given. -/
def gather (roster : Roster) (around : Surroundings) :
    StateM Session (ChannelBatch × Roundup) := do
  let collected ← collectAll around roster.sources
  let summary : Roundup := ⟨collected.map fun (name, found) => report name found⟩
  return (.merge (collected.flatMap (·.2.lists)), summary)

end Roster

end CatalogFeeds
