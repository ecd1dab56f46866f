import CatalogFeeds.Proofs.Overrides
import CatalogFeeds.Source.Untold
import Mathlib.Data.List.Induction
/-!
What the preset of the Untold catalogue makes of settings.

Listings and headers have names, and those that are configured are set one after the other among
those of the preset. A listing stays in the place of the one it replaces; headers are in the order of
their names. Everything else that is configured is kept.

* `settles_listings`, `settles_headers` — what is left is the last of each name.
* `names_listings` — the order of the listings.
* `complete_complete` — completing settings again changes nothing.
* `preset_fills_gaps` — all that completing settings does.
-/

namespace CatalogFeeds.Untold

variable {before : List ChannelListing}

/-! ### Listings -/

theorem names_setListing (before : List ChannelListing) (listing : ChannelListing) :
    (setListing before listing).map (·.name) =
      if listing.name ∈ before.map (·.name) then before.map (·.name)
      else before.map (·.name) ++ [listing.name] := by
  induction before with
  | nil => rfl
  | cons first rest ih =>
    by_cases same : first.name = listing.name
    · simp [setListing, same]
    · have other : listing.name ≠ first.name := Ne.symm same
      simp only [setListing, beq_iff_eq, same, if_false, List.map_cons, ih, List.mem_cons, other,
        false_or]
      split <;> rfl

/-- A listing that is set takes the place of the one of its name. -/
theorem sets_setListing (distinct : (before.map (·.name)).Nodup) (listing : ChannelListing) :
    Sets (·.name) before listing (setListing before listing) := by
  induction before with
  | nil =>
    refine ⟨by simp [setListing], fun wanted other => ?_⟩
    simp [setListing, other]
  | cons first rest ih =>
    rw [List.map_cons, List.nodup_cons] at distinct
    obtain ⟨new, distinct⟩ := distinct
    by_cases same : first.name = listing.name
    · have placed : setListing (first :: rest) listing = listing :: rest := by
        simp [setListing, same]
      have none : rest.filter (·.name == listing.name) = [] := by
        rw [List.filter_eq_nil_iff]
        intro other mem repeated
        exact new (List.mem_map.mpr ⟨other, mem, by simpa [same] using repeated⟩)
      rw [placed]
      constructor
      · rw [List.filter_cons_of_pos (by simp), none]
      · intro wanted other
        rw [List.filter_cons_of_neg (by simpa using other),
          List.filter_cons_of_neg (by simpa [same] using other)]
    · have passed : setListing (first :: rest) listing = first :: setListing rest listing := by
        simp [setListing, same]
      rw [passed]
      constructor
      · rw [List.filter_cons_of_neg (by simpa using same), (ih distinct).own]
      · intro wanted other
        rw [List.filter_cons, List.filter_cons, (ih distinct).others wanted other]

theorem nodup_setListing (distinct : (before.map (·.name)).Nodup) (listing : ChannelListing) :
    ((setListing before listing).map (·.name)).Nodup := by
  rw [names_setListing]
  split
  · exact distinct
  · rename_i new
    rw [← List.concat_eq_append]
    exact distinct.concat new

/-- The listings of completed settings. -/
def listingsWith (configured : List ChannelListing) : List ChannelListing :=
  configured.foldl setListing channelListings

/-- **The last listing of each name** is left, of the preset and then of what is configured. -/
theorem settles_listings (configured : List ChannelListing) :
    Settles (·.name) (channelListings ++ configured) (listingsWith configured) := by
  have distinct : (channelListings.map (·.name)).Nodup := by decide
  exact (Settles.foldl (fun _ listing fine => ⟨sets_setListing fine listing,
    nodup_setListing fine listing⟩) (settles_self distinct) distinct configured).1

/-- The names in a list that are not among some others, each at its first place. -/
def newNames (known names : List String) : List String :=
  (names.filter (!known.contains ·)).eraseDups

theorem newNames_concat (known names : List String) (name : String) :
    newNames known (names ++ [name]) =
      if name ∈ known ++ newNames known names then newNames known names
      else newNames known names ++ [name] := by
  have split : newNames known (names ++ [name]) = newNames known names ++
      (([name].filter (!known.contains ·)).removeAll (names.filter (!known.contains ·))).eraseDups :=
    by rw [newNames, List.filter_append, List.eraseDups_append, newNames]
  rw [split]
  by_cases old : name ∈ known
  · simp [old, List.removeAll]
  · by_cases repeated : name ∈ names
    · simp [old, repeated, List.removeAll, newNames]
    · simp [old, repeated, List.removeAll, newNames, List.eraseDups_cons]

theorem eraseDups_of_nodup {names : List String} (distinct : names.Nodup) :
    names.eraseDups = names := by
  induction names with
  | nil => rfl
  | cons first rest ih =>
    obtain ⟨new, distinct⟩ := List.nodup_cons.mp distinct
    have kept : rest.filter (fun name => !name == first) = rest := by
      rw [List.filter_eq_self]
      intro name mem
      have other : name ≠ first := by
        rintro rfl
        exact new mem
      simpa using other
    rw [List.eraseDups_cons, kept, ih distinct]

/-- New names are found again behind the known ones. -/
theorem newNames_append {known new : List String} (distinct : (known ++ new).Nodup) :
    newNames known (known ++ new) = new := by
  obtain ⟨-, own, apart⟩ := List.nodup_append.mp distinct
  have old : known.filter (!known.contains ·) = [] := by simp
  have kept : new.filter (!known.contains ·) = new := by
    rw [List.filter_eq_self]
    intro name mem
    simpa using fun inside => apart name inside name mem rfl
  rw [newNames, List.filter_append, old, kept, List.nil_append, eraseDups_of_nodup own]

/-- **The order of the listings**: those of the preset, and then one for each new name. -/
theorem names_listings (configured : List ChannelListing) :
    (listingsWith configured).map (·.name) = channelListings.map (·.name) ++
      newNames (channelListings.map (·.name)) (configured.map (·.name)) := by
  induction configured using List.reverseRecOn with
  | nil => rfl
  | append_singleton configured listing ih =>
    rw [listingsWith, List.foldl_append, List.foldl_cons, List.foldl_nil, names_setListing,
      ← listingsWith, ih, List.map_append, List.map_cons, List.map_nil, newNames_concat]
    split
    · rfl
    · rw [List.append_assoc]

/-- Completing the listings once more changes none of them. -/
theorem listingsWith_listingsWith (configured : List ChannelListing) :
    listingsWith (listingsWith configured) = listingsWith configured := by
  have settled := settles_listings configured
  apply eq_of_names
  · have distinct := settled.nodup
    rw [names_listings] at distinct
    rw [names_listings (listingsWith configured), names_listings configured,
      newNames_append distinct]
  · intro wanted
    rw [settles_listings _ wanted, settled.again, settled wanted]

/-! ### Headers -/

/-- **The last header of each name** is left, of the preset and then of what is configured. -/
theorem settles_headers (configured : List (String × String)) :
    Settles (·.1) (headers ++ configured) (Members.insertAll configured headers) ∧
      Members.IsOrdered (Members.insertAll configured headers) :=
  settles_insertAll (by decide) configured

theorem insertAll_insertAll_headers (configured : List (String × String)) :
    Members.insertAll (Members.insertAll configured headers) headers =
      Members.insertAll configured headers := by
  obtain ⟨settled, ordered⟩ := settles_headers configured
  obtain ⟨settled', ordered'⟩ := settles_headers (Members.insertAll configured headers)
  apply eq_of_isOrdered ordered' ordered
  intro name
  rw [settled' name, settled.again, settled name]

/-! ### Settings -/

/-- **Completing settings again changes nothing.** -/
theorem complete_complete (settings : SourceSettings) :
    complete (complete settings) = complete settings := by
  have listings := listingsWith_listingsWith settings.channelListings
  have headers := insertAll_insertAll_headers settings.headers
  unfold listingsWith at listings
  simp [complete, listings, headers]

/-- **The preset fills the gaps in settings.** The listings have distinct names. Those of the preset
stand in front, in their order, and the new names that are configured follow in the order in which
they first appear. Under each name there is the last listing that is configured for it, or else that
of the preset. The same goes for headers, which are in the order of their names. Whatever else is
configured is kept, and completing the settings again changes nothing. -/
theorem preset_fills_gaps (settings : SourceSettings) :
    let done := complete settings
    let configured := settings.channelListings
    (done.channelListings.map (·.name)).Nodup ∧
    done.channelListings.map (·.name) = channelListings.map (·.name) ++
      ((configured.map (·.name)).filter
        (fun name => !(channelListings.map (·.name)).contains name)).eraseDups ∧
    (∀ name, done.channelListings.filter (·.name == name) =
      ((lastNamed (·.name) configured name).or (lastNamed (·.name) channelListings name)).toList) ∧
    (∀ name, done.headers.filter (·.1 == name) =
      ((lastNamed (·.1) settings.headers name).or (lastNamed (·.1) headers name)).toList) ∧
    Members.IsOrdered done.headers ∧
    done.name = settings.name ∧ done.kind = settings.kind ∧ done.enabled = settings.enabled ∧
    done.token = settings.token ∧ done.cacheTtl = settings.cacheTtl ∧
    done.baseUrl = settings.baseUrl.or (some baseUrl) ∧
    done.episodeListing = settings.episodeListing.or (some episodeListing) ∧
    done.titleSearch = settings.titleSearch.or (some titleSearch) ∧
    complete done = done := by
  intro done configured
  have settled := settles_listings configured
  obtain ⟨headersSettled, ordered⟩ := settles_headers settings.headers
  refine ⟨settled.nodup, names_listings configured, ?_, ?_, ordered, rfl, rfl, rfl, rfl, rfl,
    Option.or_some.symm, Option.or_some.symm, Option.or_some.symm, complete_complete settings⟩
  · intro name
    rw [← lastNamed_append]
    exact settled name
  · intro name
    rw [← lastNamed_append]
    exact headersSettled name

/-- A listing of the preset that is configured twice, around a new one. -/
example :
    (complete {
      name := "untold"
      channelListings := [
        { name := "followed", entryName := some "first" },
        { name := "recommended" },
        { name := "followed", entryName := some "mine" }] }).channelListings.map
        (fun listing => (listing.name, listing.key)) =
      [("originals", "originals"), ("followed", "mine"), ("recommended", "recommended")] := by
  decide

end CatalogFeeds.Untold
