import CatalogFeeds.Settings.Basic
import Mathlib.Data.List.Pairwise
/-!
What it means that settings are valid.

* `check_ok_iff` — what the check of one source comes down to.
* `validate_ok_iff` — settings are valid exactly if every source is sound on its own and any two
  differ in their names and in their directories of the cache.
-/

namespace CatalogFeeds

theorem firstRepeated?_eq_none_iff {seen items : List String} :
    firstRepeated? seen items = none ↔ items.Nodup ∧ ∀ item ∈ items, item ∉ seen := by
  induction items generalizing seen with
  | nil => simp [firstRepeated?]
  | cons item items ih =>
    by_cases known : item ∈ seen
    · simp [firstRepeated?, known]
    · rw [firstRepeated?, if_neg (by simpa using known), ih, List.nodup_cons]
      constructor
      · rintro ⟨distinct, fresh⟩
        refine ⟨⟨fun later => by simpa using fresh item later, distinct⟩, ?_⟩
        intro other mem
        rcases List.mem_cons.mp mem with rfl | later
        · exact known
        · exact fun old => fresh other later (List.mem_cons_of_mem _ old)
      · rintro ⟨⟨new, distinct⟩, fresh⟩
        refine ⟨distinct, fun other later => ?_⟩
        rw [List.mem_cons, not_or]
        exact ⟨fun same => new (same ▸ later), fresh other (List.mem_cons_of_mem _ later)⟩

namespace SourceSettings

/-- Sound on its own: named, with a base URL unless its kind brings one, and with listings of
different names. -/
structure IsSound (settings : SourceSettings) : Prop where
  named : isBlankText settings.name = false
  located : settings.kind = .generic → settings.baseUrl.isSome = true
  listings : (settings.channelListings.map (·.name)).Nodup

/-- Two sources that can be told from each other. -/
structure Differ (first second : SourceSettings) : Prop where
  name : first.name ≠ second.name
  directory : first.cacheDirectory ≠ second.cacheDirectory

instance : Std.Symm Differ :=
  ⟨fun _ _ h => ⟨h.name.symm, h.directory.symm⟩⟩

/-- **What the check of a source comes down to.** -/
theorem check_ok_iff {before : List SourceSettings} {settings : SourceSettings} :
    settings.check before = .ok () ↔
      settings.IsSound ∧ ∀ other ∈ before, other.Differ settings := by
  simp only [check, bind, Except.bind, throw, throwThe, MonadExceptOf.throw, pure, Except.pure]
  have described : settings.IsSound ↔ isBlankText settings.name = false ∧
      (settings.kind = .generic → settings.baseUrl.isSome = true) ∧
      firstRepeated? [] (settings.channelListings.map (·.name)) = none := by
    rw [firstRepeated?_eq_none_iff]
    exact ⟨fun h => ⟨h.named, h.located, h.listings, by simp⟩, fun h => ⟨h.1, h.2.1, h.2.2.1⟩⟩
  rw [described]
  constructor
  · intro h
    split at h
    · simp at h
    · rename_i named
      split at h
      · simp at h
      · rename_i fresh
        split at h
        · simp at h
        · rename_i alone
          split at h
          · simp at h
          · rename_i located
            split at h
            · simp at h
            · rename_i distinct
              have none := List.find?_eq_none.mp (Option.eq_none_iff_forall_ne_some.mpr alone)
              refine ⟨⟨by simpa using named, fun generic => ?_,
                Option.eq_none_iff_forall_ne_some.mpr distinct⟩, fun other mem => ⟨?_, ?_⟩⟩
              · cases url : settings.baseUrl with
                | none => simp [generic, url] at located
                | some url => rfl
              · exact fun same => fresh (List.any_eq_true.mpr ⟨other, mem, by simpa using same⟩)
              · exact fun same => none other mem (by simpa using same)
  · rintro ⟨⟨named, located, distinct⟩, differ⟩
    have fresh : before.any (·.name == settings.name) = false := by
      rw [List.any_eq_false]
      exact fun other mem => by simpa using (differ other mem).name
    have alone : before.find? (·.cacheDirectory == settings.cacheDirectory) = none := by
      rw [List.find?_eq_none]
      exact fun other mem => by simpa using (differ other mem).directory
    have reachable : (settings.kind == .generic && settings.baseUrl.isNone) = false := by
      cases kind : settings.kind with
      | generic => simpa using located kind
      | untold => rfl
    simp [named, fresh, alone, reachable, distinct]

end SourceSettings

namespace Settings

open SourceSettings

theorem checkSources_ok_iff {before sources : List SourceSettings} :
    checkSources before sources = .ok () ↔
      (∀ source ∈ sources, source.IsSound) ∧ sources.Pairwise Differ ∧
        ∀ other ∈ before, ∀ source ∈ sources, other.Differ source := by
  induction sources generalizing before with
  | nil => simp [checkSources]
  | cons source sources ih =>
    have step : checkSources before (source :: sources) = .ok () ↔
        source.check before = .ok () ∧ checkSources (before ++ [source]) sources = .ok () := by
      rw [checkSources]
      cases source.check before <;> simp [bind, Except.bind]
    rw [step, check_ok_iff, ih, List.pairwise_cons]
    constructor
    · rintro ⟨⟨sound, differ⟩, rest, pairs, before⟩
      refine ⟨by simpa using ⟨sound, rest⟩, ⟨fun other mem => before source (by simp) other mem,
        pairs⟩, fun earlier mem other later => ?_⟩
      rcases List.mem_cons.mp later with rfl | later
      · exact differ earlier mem
      · exact before earlier (List.mem_append_left _ mem) other later
    · rintro ⟨sound, ⟨behind, pairs⟩, differ⟩
      refine ⟨⟨sound source List.mem_cons_self, fun other mem =>
        differ other mem source List.mem_cons_self⟩, fun other mem =>
        sound other (List.mem_cons_of_mem _ mem), pairs, fun earlier mem other later => ?_⟩
      rcases List.mem_append.mp mem with mem | own
      · exact differ earlier mem other (List.mem_cons_of_mem _ later)
      · rw [List.mem_singleton.mp own]
        exact behind other later

/-- **What valid settings are.** -/
theorem validate_ok_iff {settings : Settings} :
    settings.validate = .ok () ↔
      (∀ source ∈ settings.sources, source.IsSound) ∧ settings.sources.Pairwise Differ := by
  simp [validate, checkSources_ok_iff]

/-- Different sources of valid settings can be told from each other. -/
theorem differ_of_validate {settings : Settings} {first second : SourceSettings}
    (valid : settings.validate = .ok ()) (mem : first ∈ settings.sources)
    (mem' : second ∈ settings.sources) (ne : first ≠ second) : first.Differ second :=
  (validate_ok_iff.mp valid).2.forall mem mem' ne

end Settings

end CatalogFeeds
