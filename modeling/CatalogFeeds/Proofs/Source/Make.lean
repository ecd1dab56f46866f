import CatalogFeeds.Proofs.Endpoint.Compile
import CatalogFeeds.Source.Basic
/-!
What endpoints, engines and sources are made of.

Making one of them may fail at any of its parts. Each lemma here says what there is to one that has
been made, part by part.
-/

namespace CatalogFeeds

variable {ttl : Time.Duration} {modifiers : ModifierSet}

theorem Endpoint.of_compile {definition : EndpointDefinition} {schema : Schema}
    {endpoint : Endpoint} (h : compile modifiers definition schema = .ok endpoint) :
    endpoint.definition = definition ∧ endpoint.schema = schema ∧
      (definition.mapping.mapM fun (target, text) =>
        compileMapping modifiers definition schema target text) = .ok endpoint.mappings := by
  obtain ⟨-, -, -, -, -, compiled, own, kind⟩ := compile_eq_ok_iff.mp h
  exact ⟨own, kind, compiled⟩

theorem Engine.of_make {name baseUrl : Option String} {headers : List (String × String)}
    {ttl : Option Time.Duration} {engine : Engine}
    (h : make name baseUrl headers ttl modifiers = .ok engine) :
    name = some engine.name ∧ ∃ text, baseUrl = some text ∧
      Url.baseOf text = .ok engine.baseUrl := by
  unfold make at h
  split at h
  · rename_i own named
    split at h
    · rename_i text given
      obtain ⟨url, read, same⟩ := bind_eq_ok_iff.mp h
      rw [← Except.ok.inj same]
      exact ⟨(Option.filter_eq_some_iff.mp named).1, text, (Option.filter_eq_some_iff.mp given).1,
        mapError_eq_ok_iff.mp read⟩
    · exact absurd h throw_ne_ok
  · exact absurd h throw_ne_ok

/-- An engine has the headers and the modifiers that it was given. -/
theorem Engine.given_of_make {name baseUrl : Option String} {headers : List (String × String)}
    {ttl : Option Time.Duration} {engine : Engine}
    (h : make name baseUrl headers ttl modifiers = .ok engine) :
    engine.headers = headers ∧ engine.modifiers = modifiers := by
  unfold make at h
  split at h
  · split at h
    · obtain ⟨url, -, same⟩ := bind_eq_ok_iff.mp h
      rw [← Except.ok.inj same]
      exact ⟨rfl, rfl⟩
    · exact absurd h throw_ne_ok
  · exact absurd h throw_ne_ok

theorem Source.of_make {settings : SourceSettings} {source : Source}
    (h : make settings ttl modifiers = .ok source) :
    let settings := effective settings
    (∃ baseUrl, settings.baseUrl = some baseUrl ∧
      Engine.make (some settings.name) (some baseUrl) (withToken settings.headers settings.token)
        (some (settings.cacheTtl.getD ttl)) modifiers = .ok source.engine) ∧
    settings.channelListings.mapM (compileListing source.engine) = .ok source.listings ∧
    settings.episodeListing.mapM (source.engine.compile · .episode) = .ok source.episodeListing ∧
    settings.titleSearch.mapM (source.engine.compile · .channel) = .ok source.titleSearch := by
  unfold make at h
  simp only at h
  split at h
  · rename_i baseUrl given
    obtain ⟨engine, built, h⟩ := bind_eq_ok_iff.mp h
    obtain ⟨listings, listed, h⟩ := bind_eq_ok_iff.mp h
    obtain ⟨episodes, own, h⟩ := bind_eq_ok_iff.mp h
    obtain ⟨titles, search, same⟩ := bind_eq_ok_iff.mp h
    rw [← Except.ok.inj same]
    exact ⟨⟨baseUrl, given, built⟩, listed, own, search⟩
  · exact absurd h throw_ne_ok

end CatalogFeeds
