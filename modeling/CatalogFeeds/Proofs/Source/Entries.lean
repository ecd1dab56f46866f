import CatalogFeeds.Proofs.Source.Query
import CatalogFeeds.Settings.Basic
/-!
When the queries of a source get each other's payloads.

A file is named after a key with most characters replaced or dropped, so keys that differ may well
have the same file.

* `entries_follow_traces` — two queries share a file exactly if their keys leave the same trace;
  where they do not, neither is noticed by the other; and where the keys of two channels do, the
  episodes of one are given out as those of the other.
* `plain_apart` — values of letters, digits and single dashes keep queries apart.
* `episodes_entries_collide` — in general channels do share files, for sources of valid settings
  too.
-/

namespace CatalogFeeds

open RunM Segment PayloadStore

namespace Query

variable {source : Source} {query : Query}

/-! ### Plain values -/

theorem dot_notMem_of_plain {value : String} (plain : IsPlain value.toList) :
    '.' ∉ value.toList :=
  fun mem => ne_dot (plain.2 '.' mem) rfl

/-- A plain value is in the trace as it stands. -/
theorem trace_of_plain {name value : String} (h : query.key = name ++ "=" ++ value)
    (inner : name.toList.all isInner = true) (first : name.toList.head? ≠ some ' ')
    (plain : IsPlain value.toList) :
    query.trace = (squeeze false (marks name.toList ++ ['-']) ++ value.toList, "json".toList) := by
  have noDot : '.' ∉ query.key.toList := by
    have nameNoDot : '.' ∉ name.toList := fun mem =>
      absurd (List.all_eq_true.mp inner '.' mem) (by decide)
    simp [h, nameNoDot, dot_notMem_of_plain plain]
  have text : query.valueText value = value.toList ++ ".json".toList := by
    simp [valueText, hasExtension_of_noDot noDot]
  obtain ⟨stem, extension⟩ := parts_of_plain inner first plain
  rw [trace, fileText_toList h, text, stem, extension]

/-- Queries with one parameter of the same name and different plain values do not share a file. -/
theorem plain_apart {name a b : String} {first second : Query}
    (h : first.key = name ++ "=" ++ a) (h' : second.key = name ++ "=" ++ b)
    (inner : name.toList.all isInner = true) (start : name.toList.head? ≠ some ' ')
    (plain : IsPlain a.toList) (plain' : IsPlain b.toList) (ne : a ≠ b) :
    ¬ Share source first second := by
  rw [share_iff, trace_of_plain h inner start plain, trace_of_plain h' inner start plain']
  rintro ⟨-, -, same⟩
  have values : a.toList = b.toList := List.append_cancel_left (Prod.mk.inj same).1
  exact ne (String.toList_inj.mp values)

theorem episodes_apart_titles (id text : String) :
    ¬ Share source (.episodes id) (.titles text) := by
  rw [share_iff]
  exact fun h => trace_episodes_ne_titles id text h.2.2

/-! ### Queries that do not share a file -/

/-- The session after queries were asked one after another, each in its own surroundings. -/
def askAll (source : Source) (visits : List (Query × Surroundings)) (session : Session) : Session :=
  visits.foldl (fun session visit => (visit.1.ask source visit.2 session).2) session

/-- A query is answered alike whatever queries were asked before that do not share its file. -/
theorem ask_after (around : Surroundings) (visits : List (Query × Surroundings))
    (apart : ∀ visit ∈ visits, ¬ Share source visit.1 query ∧ visit.2.cache = around.cache)
    (session : Session) :
    (query.ask source around (askAll source visits session)).1 =
      (query.ask source around session).1 := by
  obtain ⟨cache, uses⟩ := around.exists_cache
  have hidden : ∀ {directory : String} {place : List String}, (∀ visit ∈ visits, ∀ names,
      source.engine.file? visit.1.key = some names → ¬ directory :: place <+: names) →
      SameSight (cache.place ++ [directory]) place
        (askAll source visits session).files session.files := by
    intro directory place beside
    refine HiddenFrom.foldl visits (fun visit mem => ask_hiddenFrom (beside visit mem) ?_) session
    rw [(apart visit mem).2]
    exact uses
  cases own : source.engine.file? query.key with
  | none =>
    -- The query has no file and sees nothing; any place will do that is not on the way to a file.
    have unseen : SameSight (cache.place ++ [""]) ["", ""] (askAll source visits session).files
        session.files := by
      refine hidden fun visit _ names file on => ?_
      obtain ⟨-, rfl⟩ := Engine.file?_eq_some_iff.mp file
      exact absurd on.length_le (by simp)
    exact (ask_seesOnly (by simp [own]) uses _ _ unseen).1
  | some names =>
    obtain ⟨-, rfl⟩ := Engine.file?_eq_some_iff.mp own
    have unseen : SameSight (cache.place ++ [source.engine.directory])
        [Engine.fileName query.key] (askAll source visits session).files session.files := by
      refine hidden fun visit mem names file on => ?_
      obtain ⟨-, rfl⟩ := Engine.file?_eq_some_iff.mp file
      have same := on.eq_of_length (by simp)
      exact (apart visit mem).1 ⟨_, file, by rw [own, same]⟩
    refine (ask_seesOnly (fun names file => ?_) uses _ _ unseen).1
    obtain rfl := Option.some.inj (own.symm.trans file)
    exact List.prefix_rfl

/-! ### Channels that share a file -/

/-- The episodes of one channel, once stored, are given out as those of another whose file is the
same, as long as they are fresh. -/
theorem episodes_served {a b : String} {around around' : Surroundings} {cache : PayloadStore}
    {session : Session} {endpoint : Endpoint} {harvest : Harvest Episode} {url : Url}
    (shared : Share source (.episodes a) (.episodes b))
    (offered : source.episodeListing = some endpoint)
    (located : source.engine.urlFor endpoint ⟨[("podID", .string b)]⟩ = .ok url)
    (uses : around.cache = some cache) (uses' : around'.cache = some cache)
    (listed : ((source.episodesOf around a).outcome session).1 = .ok harvest)
    (origin : harvest.origin = .network) (stored : harvest.storeError = none)
    (filled : harvest.raw.isEmpty = false)
    (fresh : around.now.isBefore (source.engine.staleBefore around'.now) = false) :
    ((source.episodesOf around' b).outcome ((source.episodesOf around a).outcome session).2).1 =
      .ok { records := harvest.records, raw := harvest.raw, origin := .cache } := by
  obtain ⟨file, own, other⟩ := shared
  obtain ⟨nonempty, rfl⟩ := Engine.file?_eq_some_iff.mp own
  obtain ⟨nonempty', same⟩ := Engine.file?_eq_some_iff.mp other
  simp only [Source.episodesOf, offered] at listed ⊢
  have keyed := source.engine.entryKey?_of_ne nonempty
  have keyed' := source.engine.entryKey?_of_ne nonempty'
  have slot : source.engine.slot? around ⟨[("podID", .string a)]⟩ Source.episodesKey =
      some (cache, _) := (Engine.slot?_eq_some_iff ..).mpr ⟨uses, keyed⟩
  have slot' : source.engine.slot? around' ⟨[("podID", .string b)]⟩ Source.episodesKey =
      some (cache, _) := (Engine.slot?_eq_some_iff ..).mpr ⟨uses', keyed'⟩
  obtain ⟨decoded, names, named, found⟩ := Engine.run_stores slot listed origin stored
  have file := (Engine.fileNames_of_entryKey? keyed).symm.trans named
  have file' := Engine.fileNames_of_entryKey? keyed'
  rw [← Except.ok.inj file, same] at found
  rw [Engine.run_of_file located slot' file' found fresh filled decoded]

theorem share_episodes_iff {a b : String} :
    Share source (.episodes a) (.episodes b) ↔
      (episodes a).trace = (episodes b).trace := by
  rw [share_iff]
  exact ⟨fun h => h.2.2, fun h => ⟨by simp [key_episodes], by simp [key_episodes], h⟩⟩

/-! ### The main statement -/

/-- **What a source keeps apart.** Two queries share a file exactly if both have a key and the
keys leave the same trace; episodes and titles never do, nor do different plain values. Queries
are answered alike whatever was asked before that does not share their file. Channels with
identifiers that leave the same trace do share it: while the episodes of one are fresh in the
cache, they are given out as those of the other. -/
theorem entries_follow_traces (source : Source) :
    (∀ first second : Query, Share source first second ↔
      first.key ≠ "" ∧ second.key ≠ "" ∧ first.trace = second.trace) ∧
    (∀ id text : String, ¬ Share source (.episodes id) (.titles text)) ∧
    (∀ a b : String, IsPlain a.toList → IsPlain b.toList → a ≠ b →
      ¬ Share source (.episodes a) (.episodes b) ∧ ¬ Share source (.titles a) (.titles b)) ∧
    (∀ (query : Query) (around : Surroundings) (visits : List (Query × Surroundings)),
      (∀ visit ∈ visits, ¬ Share source visit.1 query ∧ visit.2.cache = around.cache) →
      ∀ session, (query.ask source around (askAll source visits session)).1 =
        (query.ask source around session).1) ∧
    ∀ (a b : String) (around around' : Surroundings) (cache : PayloadStore) (session : Session)
      (endpoint : Endpoint) (harvest : Harvest Episode) (url : Url),
      (episodes a).trace = (episodes b).trace →
      source.episodeListing = some endpoint →
      source.engine.urlFor endpoint ⟨[("podID", .string b)]⟩ = .ok url →
      around.cache = some cache → around'.cache = some cache →
      ((source.episodesOf around a).outcome session).1 = .ok harvest →
      harvest.origin = .network → harvest.storeError = none → harvest.raw.isEmpty = false →
      around.now.isBefore (source.engine.staleBefore around'.now) = false →
      ((source.episodesOf around' b).outcome
          ((source.episodesOf around a).outcome session).2).1 =
        .ok { records := harvest.records, raw := harvest.raw, origin := .cache } := by
  refine ⟨share_iff source, episodes_apart_titles, ?_, ?_, ?_⟩
  · intro a b plain plain' ne
    exact ⟨plain_apart (key_episodes a) (key_episodes b) (by decide) (by decide) plain plain' ne,
      plain_apart (key_titles a) (key_titles b) (by decide) (by decide) plain plain' ne⟩
  · intro query around visits apart session
    exact ask_after around visits apart session
  · intro a b around around' cache session endpoint harvest url same offered located uses uses'
      listed origin stored filled fresh
    exact episodes_served (share_episodes_iff.mpr same) offered located uses uses' listed origin
      stored filled fresh

/-- Settings with one source, which lists the episodes of a channel. -/
def channelSettings : Settings where
  sources := [{
    name := "s"
    baseUrl := some "http://h/"
    episodeListing := some { path := "e/\x7b\x7b podID \x7d\x7d" } }]

/-- The source of these settings, if it can be made. -/
def channelSource? : Option Source :=
  channelSettings.sources.head?.bind fun settings =>
    (Source.make settings channelSettings.cache.ttl .builtin).toOption

theorem channelSource?_isSome : channelSource?.isSome = true := by
  decide +kernel

/-- That source. -/
def channelSource : Source :=
  channelSource?.get channelSource?_isSome

/-- A cache, a clock, and a catalogue in which each channel has a list of its own. -/
def atSecond (seconds : Int) : Surroundings where
  transport request :=
    .ok ⟨200, if request.url.path.text == "/e/a%20b" then ⟨#[91, 93]⟩ else ⟨#[91, 32, 93]⟩⟩
  cache := some ⟨"c", ["c"]⟩
  now := ⟨seconds, 0⟩

/-- The first list, and half a minute later the same list for another channel. -/
theorem entries_follow_traces_two_channels :
    let first := (channelSource.episodesOf (atSecond 0) "a b").outcome ⟨.empty ⟨0, 0⟩, []⟩
    ∃ harvest, first.1 = .ok harvest ∧ harvest.raw = ⟨#[91, 93]⟩ ∧ harvest.origin = .network ∧
      ((channelSource.episodesOf (atSecond 30) "a_b").outcome first.2).1 =
        .ok { records := harvest.records, raw := harvest.raw, origin := .cache } := by
  have summary : ((channelSource.episodesOf (atSecond 0) "a b").outcome
      ⟨.empty ⟨0, 0⟩, []⟩).1.toOption.map (fun harvest =>
        (harvest.raw, harvest.origin, harvest.storeError)) =
          some (⟨#[91, 93]⟩, .network, none) := by decide +kernel
  have locates : (channelSource.episodeListing.bind fun endpoint =>
      (channelSource.engine.urlFor endpoint ⟨[("podID", .string "a_b")]⟩).toOption).isSome =
        true := by decide +kernel
  obtain ⟨url, found⟩ := Option.isSome_iff_exists.mp locates
  obtain ⟨endpoint, offered, located⟩ := Option.bind_eq_some_iff.mp found
  obtain ⟨harvest, listed, facts⟩ := Option.map_eq_some_iff.mp summary
  simp only [Prod.mk.injEq] at facts
  obtain ⟨raw, origin, stored⟩ := facts
  refine ⟨harvest, toOption_eq_some_iff.mp listed, raw, origin, ?_⟩
  exact (entries_follow_traces channelSource).2.2.2.2 "a b" "a_b" (atSecond 0) (atSecond 30)
    ⟨"c", ["c"]⟩ _ endpoint harvest url (by decide +kernel) offered
    (toOption_eq_some_iff.mp located) rfl rfl (toOption_eq_some_iff.mp listed) origin stored
    (by rw [raw]; decide) (by decide +kernel)

/-- Different channels of a source of valid settings may share a file. -/
theorem episodes_entries_collide :
    ¬ ∀ (settings : Settings) (own : SourceSettings) (modifiers : ModifierSet) (source : Source),
      settings.validate = .ok () → own ∈ settings.sources →
      Source.make own settings.cache.ttl modifiers = .ok source →
      ∀ first second : Query, first ≠ second → ¬ Share source first second := by
  intro apart
  have valid : channelSettings.validate.toOption = some () := by decide +kernel
  obtain ⟨source, made⟩ := Option.isSome_iff_exists.mp channelSource?_isSome
  obtain ⟨own, mem, make⟩ := Option.bind_eq_some_iff.mp made
  refine apart channelSettings own .builtin source (toOption_eq_some_iff.mp valid)
    (List.mem_of_head? mem) (toOption_eq_some_iff.mp make) (.episodes "a b") (.episodes "a_b")
    (by simp) ?_
  rw [share_episodes_iff]
  decide +kernel

end Query

end CatalogFeeds
