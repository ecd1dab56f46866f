import CatalogFeeds.Proofs.Engine.Exchange
import CatalogFeeds.Proofs.Engine.Path
import CatalogFeeds.Proofs.Engine.Query
import CatalogFeeds.Proofs.Url.Literal
import CatalogFeeds.Source.Basic
/-!
Searching the Untold catalogue.

The text of a search is put into the query of the endpoint as it is, so the query may say something
else than the text. It has the text for its only pair exactly if the text is literal.

* `urlFor_search` — the URL of a search.
* `search_sends_term` — which searches send the text and nothing else.
-/

namespace CatalogFeeds

open CatalogFeeds.Text RunM

namespace Source

variable {settings : SourceSettings} {ttl : Time.Duration} {modifiers : ModifierSet}
  {source : Source} {baseUrl : String} {definition : EndpointDefinition}

/-- A source asks its base URL, and searches with its own endpoint. -/
theorem titleSearch_of_make (made : make settings ttl modifiers = .ok source)
    (base : (effective settings).baseUrl = some baseUrl)
    (search : (effective settings).titleSearch = some definition) :
    Url.baseOf baseUrl = .ok source.engine.baseUrl ∧
      ∃ endpoint, source.titleSearch = some endpoint ∧ endpoint.definition = definition := by
  obtain ⟨⟨given, stated, built⟩, -, -, compiled⟩ := of_make made
  obtain rfl := Option.some.inj (stated.symm.trans base)
  obtain ⟨-, text, same, read⟩ := Engine.of_make built
  obtain rfl := Option.some.inj same
  simp only [search] at compiled
  obtain ⟨endpoint, own, offered⟩ := map_eq_ok_iff.mp compiled
  exact ⟨read, endpoint, offered.symm, (Endpoint.of_compile own).1⟩

/-! ### Searches -/

/-- What a search is asked with. -/
def searchParams (text : String) : Params :=
  .ofTexts [("query", text)]

/-- Whether a search sends one request and no other, unless the cache answers it. -/
def SendsOnce (source : Source) (text : String) (request : Request) : Prop :=
  ∀ around session, let after := (source.titlesMatching around text).outcome session
    after.2.sent = session.sent ++ [request] ∨
      around.cache.isSome ∧ after.2 = session ∧ ∃ found, after.1 = .ok found

/-- A search is one run. -/
theorem titlesMatching_eq {endpoint : Endpoint} (offered : source.titleSearch = some endpoint)
    (around : Surroundings) (text : String) (session : Session) :
    (source.titlesMatching around text).outcome session =
      Prod.map (Except.map fun run => ⟨run.records, run.raw⟩) id
        ((source.engine.run around endpoint Channel.read (searchParams text)
          searchKey).outcome session) := by
  simp only [titlesMatching, offered, channelsFrom, outcome_bind_pure]
  rfl

variable {engine : Engine} {endpoint : Endpoint} {text : String}

/-- The query of a search. -/
def termPattern : Template.Pattern :=
  .placeholder "term=".toList "query" (.text [])

theorem expand_term (engine : Engine) (endpoint : Endpoint) (text : String) :
    Engine.expand Untold.titleSearch.query (engine.bindings endpoint (searchParams text)) =
      .ok ("term=" ++ text) := by
  have written : String.ofList termPattern.chars = Untold.titleSearch.query := by decide
  have plain : termPattern.IsPlain := ⟨by decide, by decide, by decide, by simp⟩
  have known : ∀ name ∈ termPattern.names,
      Members.get? name (engine.bindings endpoint (searchParams text)) = some (.string text) := by
    intro name mem
    obtain rfl : name = "query" := List.mem_singleton.mp mem
    rw [Engine.bindings, Members.get?_insert_of_ne (by decide),
      Members.get?_insert_of_ne (by decide)]
    rfl
  have filled : String.ofList (termPattern.filled fun _ => text) = "term=" ++ text := by
    rw [← String.toList_inj]
    simp [termPattern, Template.Pattern.filled]
  rw [Engine.expand, ← written, Template.expand_chars plain known, filled]
  rfl

/-- The base URL of Untold has no query. -/
theorem query_untold {url : Url} (h : Url.baseOf Untold.baseUrl = .ok url) : url.query = none := by
  have found : (Url.baseOf Untold.baseUrl).toOption.map (·.query) = some none := by decide +kernel
  simpa [h, Except.toOption] using found

/-- The query of a search is read from its text as it is. -/
theorem queried_search (text : String) (base : Url.baseOf Untold.baseUrl = .ok engine.baseUrl)
    (own : endpoint.definition = Untold.titleSearch) :
    ∃ url, engine.queried endpoint (searchParams text) = .ok url ∧
      url.queryPairs = formPairs ("term=" ++ text) := by
  have none : engine.baseUrl.queryPairs = [] := by
    rw [Url.queryPairs, query_untold base]
    rfl
  have kept : Engine.expandPairs engine.baseUrl (engine.bindings endpoint (searchParams text)) =
      .ok engine.baseUrl := by
    simp [Engine.expandPairs, none, pure, Except.pure]
  have term := expand_term engine endpoint text
  rw [← own] at term
  obtain ⟨url, added⟩ : ∃ url, Engine.addQuery engine.baseUrl endpoint
      (engine.bindings endpoint (searchParams text)) = .ok url := by
    have filled : endpoint.definition.query.isEmpty = false := by
      rw [own]
      decide
    simp [Engine.addQuery, filled, term, bind, Except.bind, pure, Except.pure]
  obtain ⟨query, expanded, pairs, -⟩ := Engine.queryPairs_of_addQuery added
  obtain rfl := Except.ok.inj (term.symm.trans expanded)
  refine ⟨url, ?_, by rw [pairs, none, List.nil_append]⟩
  rw [Engine.queried, kept]
  exact added

/-- What a search for dots is refused with. -/
def dotsError (text : String) : EndpointError :=
  .configuration ("parameter 'query' cannot be used as a path segment: '" ++ text ++ "'")

/-- Dots have no URL, even though the path of a search holds no placeholder. -/
theorem urlFor_search_of_dots (engine : Engine) (own : endpoint.definition = Untold.titleSearch)
    (dots : PathPart.IsDots text) :
    engine.urlFor endpoint (searchParams text) = .error (dotsError text) := by
  have stated : endpoint.definition.path.isEmpty = false := by
    rw [own]
    decide
  have some : ∃ entry ∈ [("query", text)], PathPart.IsDots entry.2 :=
    ⟨_, List.mem_singleton_self _, dots⟩
  obtain ⟨name, value, mem, -, refused⟩ := engine.urlFor_of_dots stated some
  obtain ⟨rfl, rfl⟩ := Prod.mk.inj (List.mem_singleton.mp mem)
  exact refused

/-- **The URL of a search.** -/
theorem urlFor_search (base : Url.baseOf Untold.baseUrl = .ok engine.baseUrl)
    (own : endpoint.definition = Untold.titleSearch) (plain : ¬ PathPart.IsDots text) :
    ∃ url, engine.urlFor endpoint (searchParams text) = .ok url ∧
      url.queryPairs = formPairs ("term=" ++ text) := by
  have written : splitAll '/' (endpoint.definition.path.toList.dropWhile (· == '/')) =
      [PathPart.fixed "api", .fixed "v1", .fixed "podcasts", .fixed "search"].map
        PathPart.chars := by
    rw [own]
    decide
  have regular : ∀ part ∈ [PathPart.fixed "api", .fixed "v1", .fixed "podcasts",
      .fixed "search"], part.IsRegular [("query", text)] := by
    simp only [List.forall_mem_cons, List.not_mem_nil, false_imp_iff, implies_true, and_true,
      PathPart.IsRegular]
    decide
  obtain ⟨web, segments, path, settled⟩ := Url.settled_of_baseOf base
  have allPlain : ∀ entry ∈ [("query", text)], ¬ PathPart.IsDots entry.2 := by
    simpa using plain
  obtain ⟨front, -, -, added⟩ := Engine.addPath_eq
    (engine.bindings endpoint (searchParams text)) web path settled written regular allPlain
  obtain ⟨url, asked, pairs⟩ := queried_search text base own
  have located : engine.urlFor endpoint (searchParams text) =
      (engine.queried endpoint (searchParams text)).map _ := Engine.urlFor_of_addPath added
  rw [asked] at located
  exact ⟨_, located, pairs⟩

/-- A search sends a request whose query is read from the text as it is. -/
theorem exists_sendsOnce (base : Url.baseOf Untold.baseUrl = .ok source.engine.baseUrl)
    (offered : source.titleSearch = some endpoint)
    (own : endpoint.definition = Untold.titleSearch) (plain : ¬ PathPart.IsDots text) :
    ∃ request, SendsOnce source text request ∧
      request.url.queryPairs = formPairs ("term=" ++ text) := by
  obtain ⟨url, located, pairs⟩ := urlFor_search base own plain
  have none : endpoint.definition.body.isEmpty = true := by
    rw [own]
    rfl
  obtain ⟨request, asked, same⟩ : ∃ request, source.engine.requestFor endpoint
      (searchParams text) url = .ok request ∧ request.url = url := by
    simp only [Engine.requestFor, none, if_true]
    exact ⟨_, rfl, rfl⟩
  refine ⟨request, fun around session => ?_, by rw [same, pairs]⟩
  rw [titlesMatching_eq offered]
  rcases Engine.run_sent around Channel.read searchKey session located asked with
    sent | ⟨cached, kept, harvest, found⟩
  · exact .inl sent
  · refine .inr ⟨cached, kept, ⟨harvest.records, harvest.raw⟩, ?_⟩
    rw [Prod.map_fst, found]
    rfl

/-- A search for dots is refused before anything is sent. -/
theorem titlesMatching_of_dots (offered : source.titleSearch = some endpoint)
    (own : endpoint.definition = Untold.titleSearch) (dots : PathPart.IsDots text)
    (around : Surroundings) (session : Session) :
    (source.titlesMatching around text).outcome session = (.error (dotsError text), session) := by
  rw [titlesMatching_eq offered, Engine.run_outcome,
    urlFor_search_of_dots source.engine own dots]
  rfl

/-- Surroundings without a cache, in which every answer is empty. -/
def silence : Surroundings where
  transport _ := .ok ⟨200, .empty⟩
  now := ⟨0, 0⟩

/-- Without a cache, a search sends its request. -/
theorem SendsOnce.sent_silence {request : Request} (h : SendsOnce source text request) :
    ((source.titlesMatching silence text).outcome ⟨.empty ⟨0, 0⟩, []⟩).2.sent = [request] := by
  rcases h silence ⟨.empty ⟨0, 0⟩, []⟩ with sent | ⟨cached, -⟩
  · exact sent
  · cases cached

theorem SendsOnce.unique {request other : Request} (h : SendsOnce source text request)
    (h' : SendsOnce source text other) : request = other :=
  List.singleton_inj.mp (h.sent_silence.symm.trans h'.sent_silence)

/-- **What a search sends.** Dots are refused. Any other text is sent in one request and read as
a part of its query, so it is the value of the only pair exactly if it is literal. -/
theorem search_sends_term {settings : SourceSettings}
    (made : make settings ttl modifiers = .ok source)
    (base : (effective settings).baseUrl = some Untold.baseUrl)
    (search : (effective settings).titleSearch = some Untold.titleSearch) (text : String) :
    (PathPart.IsDots text → ∀ around session,
      (source.titlesMatching around text).outcome session = (.error (dotsError text), session)) ∧
    (¬ PathPart.IsDots text → ∃ request, SendsOnce source text request ∧
      request.url.queryPairs = formPairs ("term=" ++ text)) ∧
    ((∃ request, SendsOnce source text request ∧ request.url.queryPairs = [("term", text)]) ↔
      IsLiteral text ∧ ¬ PathPart.IsDots text) := by
  obtain ⟨read, endpoint, offered, own⟩ := titleSearch_of_make made base search
  refine ⟨titlesMatching_of_dots offered own, exists_sendsOnce read offered own, ?_⟩
  have single : formPairs ("term" ++ "=" ++ text) = [("term", text)] ↔ IsLiteral text :=
    formPairs_eq_single_iff (by decide) text
  constructor
  · rintro ⟨request, once, pairs⟩
    have plain : ¬ PathPart.IsDots text := fun dots => by
      have sent := once.sent_silence
      rw [titlesMatching_of_dots offered own dots] at sent
      cases sent
    obtain ⟨other, also, asked⟩ := exists_sendsOnce read offered own plain
    rw [once.unique also] at pairs
    exact ⟨single.mp (asked.symm.trans pairs), plain⟩
  · rintro ⟨literal, plain⟩
    obtain ⟨request, once, pairs⟩ := exists_sendsOnce read offered own plain
    exact ⟨request, once, pairs.trans (single.mpr literal)⟩

/-- Settings that leave everything to the preset. -/
def untoldSettings : SourceSettings where
  name := "untold"
  kind := .untold

theorem exists_untoldSource : ∃ source, make untoldSettings ⟨60, 0⟩ .builtin = .ok source := by
  have given : (make untoldSettings ⟨60, 0⟩ .builtin).toOption.isSome = true := by decide +kernel
  obtain ⟨source, found⟩ := Option.isSome_iff_exists.mp given
  exact ⟨source, toOption_eq_some_iff.mp found⟩

/-- Words, a sign that stands for itself, and dots. -/
theorem search_sends_term_words :
    ∃ source, make untoldSettings ⟨60, 0⟩ .builtin = .ok source ∧
      (∃ request, SendsOnce source "søvn = ro?" request ∧
        request.url.queryPairs = [("term", "søvn = ro?")]) ∧
      ¬ ∃ request, SendsOnce source ".." request ∧ request.url.queryPairs = [("term", "..")] := by
  obtain ⟨source, made⟩ := exists_untoldSource
  refine ⟨source, made, ?_, fun sends => ?_⟩
  · exact (search_sends_term made rfl rfl "søvn = ro?").2.2.mpr ⟨by decide, by decide⟩
  · exact ((search_sends_term made rfl rfl "..").2.2.mp sends).2 (by decide)

/-- The text of a search may add a parameter to the request. -/
theorem search_adds_parameters :
    ¬ ∀ (settings : SourceSettings) (ttl : Time.Duration) (modifiers : ModifierSet)
      (source : Source), settings.kind = .untold → settings.baseUrl = none →
      settings.titleSearch = none → make settings ttl modifiers = .ok source →
      ∀ text, ∃ request, SendsOnce source text request ∧
        request.url.queryPairs = [("term", text)] := by
  intro sends
  obtain ⟨source, made⟩ := exists_untoldSource
  obtain ⟨request, once, pairs⟩ := sends _ _ _ source rfl rfl rfl made "a&b=c"
  have plain : ¬ PathPart.IsDots "a&b=c" := by decide
  obtain ⟨read, endpoint, offered, own⟩ := titleSearch_of_make made rfl rfl
  obtain ⟨other, also, asked⟩ := exists_sendsOnce read offered own plain
  rw [once.unique also, asked] at pairs
  have added : formPairs ("term=" ++ "a&b=c") ≠ [("term", "a&b=c")] := by decide +kernel
  exact added pairs

end Source

end CatalogFeeds
