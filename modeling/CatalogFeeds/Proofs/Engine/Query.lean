import CatalogFeeds.Engine.Request
import CatalogFeeds.Proofs.Results
import CatalogFeeds.Proofs.Url.Query
/-!
The query of a request.

The pairs of the base URL are templates and keep their places; the query of the endpoint is one
template, whose expansion is read as a form. What is written into the URL is read back, so no
expansion can end a pair or begin another.

* `queryPairs_of_expandPairs`, `queryPairs_of_addQuery` — what each of the two steps does.
* `query_pairs_expanded` — the pairs of a request.
-/

namespace CatalogFeeds.Engine

open CatalogFeeds.Text

variable {url before : Url} {endpoint : Endpoint} {bindings : List (String × Json)}
  {params : Params}

/-- The pair that a pair of templates expands to. -/
def ExpandsTo (bindings : List (String × Json)) (template pair : String × String) : Prop :=
  expand template.1 bindings = .ok pair.1 ∧ expand template.2 bindings = .ok pair.2

theorem expand_empty (bindings : List (String × Json)) : expand "" bindings = .ok "" :=
  rfl

/-- The path of an endpoint changes nothing but the path. -/
theorem addPath_keeps (h : addPath before endpoint bindings params = .ok url) :
    url.query = before.query ∧ url.fragment = before.fragment := by
  simp only [addPath] at h
  split at h
  · obtain rfl := Except.ok.inj h
    exact ⟨rfl, rfl⟩
  · obtain ⟨inner, -, h⟩ := bind_eq_ok_iff.mp h
    obtain ⟨path, -, h⟩ := bind_eq_ok_iff.mp h
    obtain rfl := Except.ok.inj h
    exact ⟨rfl, rfl⟩

/-- The pairs of a URL are expanded one by one. -/
theorem queryPairs_of_expandPairs (h : expandPairs before bindings = .ok url) :
    List.Forall₂ (ExpandsTo bindings) before.queryPairs url.queryPairs ∧
      url.fragment = before.fragment := by
  simp only [expandPairs] at h
  split at h
  · rename_i none
    obtain rfl := Except.ok.inj h
    rw [List.isEmpty_iff.mp none]
    exact ⟨.nil, rfl⟩
  · obtain ⟨pairs, expanded, h⟩ := bind_eq_ok_iff.mp h
    obtain rfl := Except.ok.inj h
    rw [Url.queryPairs_withPairs]
    refine ⟨(mapM_eq_ok_iff.mp expanded).imp ?_, rfl⟩
    rintro ⟨name, value⟩ ⟨name', value'⟩ step
    obtain ⟨first, expandedName, step⟩ := bind_eq_ok_iff.mp step
    obtain ⟨second, expandedValue, step⟩ := bind_eq_ok_iff.mp step
    obtain ⟨rfl, rfl⟩ := Prod.mk.inj (Except.ok.inj step)
    exact ⟨expandedName, expandedValue⟩

/-- The pairs of the query of an endpoint stand behind those of the URL. -/
theorem queryPairs_of_addQuery (h : addQuery before endpoint bindings = .ok url) :
    ∃ query, expand endpoint.definition.query bindings = .ok query ∧
      url.queryPairs = before.queryPairs ++ formPairs query ∧ url.fragment = before.fragment := by
  simp only [addQuery] at h
  split at h
  · rename_i none
    obtain rfl := Except.ok.inj h
    have empty : endpoint.definition.query = "" := by simpa using none
    exact ⟨"", by rw [empty, expand_empty], by simp [Url.formPairs_empty], rfl⟩
  · obtain ⟨query, expanded, h⟩ := bind_eq_ok_iff.mp h
    obtain rfl := Except.ok.inj h
    refine ⟨query, expanded, ?_⟩
    split
    · rename_i none
      exact ⟨by simp [List.isEmpty_iff.mp none], rfl⟩
    · exact ⟨Url.queryPairs_addPairs before _, rfl⟩

/-- **The query of a request.** Its pairs are those of the base URL in their order, name and value
expanded, and behind them the pairs of the expanded query of the endpoint. -/
theorem query_pairs_expanded (engine : Engine) (endpoint : Endpoint) (params : Params) (url : Url)
    (built : engine.urlFor endpoint params = .ok url) :
    ∃ pairs query,
      List.Forall₂ (ExpandsTo (engine.bindings endpoint params)) engine.baseUrl.queryPairs pairs ∧
      expand endpoint.definition.query (engine.bindings endpoint params) = .ok query ∧
      url.queryPairs = pairs ++ formPairs query ∧ url.fragment = engine.baseUrl.fragment := by
  obtain ⟨placed, path, rest⟩ := bind_eq_ok_iff.mp built
  obtain ⟨expanded, based, rest⟩ := bind_eq_ok_iff.mp rest
  obtain ⟨kept, fragment⟩ := addPath_keeps path
  obtain ⟨pairs, fragment'⟩ := queryPairs_of_expandPairs based
  obtain ⟨query, read, added, fragment''⟩ := queryPairs_of_addQuery rest
  refine ⟨expanded.queryPairs, query, ?_, read, added, ?_⟩
  · rwa [Url.queryPairs, kept] at pairs
  · rw [fragment'', fragment', fragment]

/-- A catalogue whose base URL asks for templates, and ends with a fragment. -/
def askingEngine? : Option Engine :=
  (make (some "s") (some "http://h/?a=\x7b\x7b q \x7d\x7d&&\x7b\x7bq\x7d\x7d=b%26c#f") [] none
    .builtin).toOption

/-- An endpoint with a query of its own. -/
def askingEndpoint? (engine : Engine) : Option Endpoint :=
  (engine.compile { path := "p", query := "a=1&n=\x7b\x7b q | length \x7d\x7d" } .channel).toOption

/-- What stands for a pair keeps the signs of forms to itself. -/
theorem query_pairs_expanded_signs :
    ∃ engine endpoint url, askingEngine? = some engine ∧ askingEndpoint? engine = some endpoint ∧
      engine.urlFor endpoint ⟨[("q", .string "x&y=+é")]⟩ = .ok url ∧
      url.query = some "a=x%26y%3D%2B%C3%A9&x%26y%3D%2B%C3%A9=b%26c&a=1&n=6" ∧
      ∃ pairs query,
        List.Forall₂ (ExpandsTo (engine.bindings endpoint ⟨[("q", .string "x&y=+é")]⟩))
          engine.baseUrl.queryPairs pairs ∧
        expand endpoint.definition.query
          (engine.bindings endpoint ⟨[("q", .string "x&y=+é")]⟩) = .ok query ∧
        url.queryPairs = pairs ++ formPairs query ∧ url.fragment = engine.baseUrl.fragment := by
  have found : (do
      let engine ← askingEngine?
      let endpoint ← askingEndpoint? engine
      let url ← (engine.urlFor endpoint ⟨[("q", .string "x&y=+é")]⟩).toOption
      url.query) = some "a=x%26y%3D%2B%C3%A9&x%26y%3D%2B%C3%A9=b%26c&a=1&n=6" := by
    decide +kernel
  obtain ⟨engine, made, found⟩ := Option.bind_eq_some_iff.mp found
  obtain ⟨endpoint, compiled, found⟩ := Option.bind_eq_some_iff.mp found
  obtain ⟨url, built, query⟩ := Option.bind_eq_some_iff.mp found
  have built := toOption_eq_some_iff.mp built
  exact ⟨engine, endpoint, url, made, compiled, built, query,
    query_pairs_expanded engine endpoint _ url built⟩

end CatalogFeeds.Engine
