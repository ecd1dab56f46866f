import CatalogFeeds.Proofs.Json.Parts
import CatalogFeeds.Proofs.Json.Written
import CatalogFeeds.Proofs.Time.Duration
import CatalogFeeds.Settings.Source
/-!
Settings of a source that are read back.

A setting that is not given is left out when settings are written, and reading finds what a blank
record has in its place. The endpoint of a listing is spread among the members of the listing, and
each of the two finds its own fields there.

* `EndpointDefinition.readMembers_eq_ok` — an endpoint is read from members that hold its entries.
* `ChannelListing.read_toJson`, `SourceSettings.read_toJson` — listings and settings are read back.
* `SourceSettings.source_settings_read_back` — so are settings from each of their texts.
-/

namespace CatalogFeeds

open Members

variable {α β : Type}

/-! ### Settings that may be left out -/

namespace SourceSettings

section Entries

variable {key : String} {toJson : α → Json} {listToJson : List α → Json} {depth : Nat}

@[simp] theorem entry?_none : entry? key toJson none = [] :=
  rfl

@[simp] theorem entry?_some (value : α) : entry? key toJson (some value) = [(key, toJson value)] :=
  rfl

@[simp] theorem listEntry?_nil : listEntry? key listToJson [] = [] :=
  rfl

@[simp] theorem listEntry?_cons (value : α) (values : List α) :
    listEntry? key listToJson (value :: values) = [(key, listToJson (value :: values))] :=
  rfl

theorem reverse_entry (key : String) (toJson : α → Json) (value : Option α) :
    ( entry? key toJson value).reverse = entry? key toJson value := by
  cases value <;> rfl

theorem lookup_entry (wanted key : String) (toJson : α → Json) (value : Option α) :
    ( entry? key toJson value).lookup wanted =
      if wanted = key then value.map toJson else none := by
  cases value <;> by_cases same : wanted = key <;> simp [same]

/-- The value of an entry for a list, unless the list is empty. -/
def listValue? (toJson : List α → Json) (values : List α) : Option Json :=
  if values.isEmpty then none else some (toJson values)

theorem reverse_listEntry (key : String) (toJson : List α → Json) (values : List α) :
    ( listEntry? key toJson values).reverse = listEntry? key toJson values := by
  cases values <;> rfl

theorem lookup_listEntry (wanted key : String) (toJson : List α → Json) (values : List α) :
    ( listEntry? key toJson values).lookup wanted =
      if wanted = key then listValue? toJson values else none := by
  cases values <;> by_cases same : wanted = key <;> simp [listValue?, same]

theorem isExact_entry {value : Option α} (all : ∀ own, Json.IsExact depth (toJson own)) :
    ∀ entry ∈ entry? key toJson value, Json.IsExact depth entry.2 := by
  cases value with
  | none => simp
  | some own => simpa using all own

theorem isExact_listEntry {values : List α} (all : Json.IsExact depth (listToJson values)) :
    ∀ entry ∈ listEntry? key listToJson values, Json.IsExact depth entry.2 := by
  cases values with
  | nil => simp
  | cons first others => simpa using all

end Entries

end SourceSettings

/-- A setting that is left out is read back as nothing. -/
theorem Slot.holds_option {path : List String} {read : Json → Except ShapeError β}
    {view : α → Option β} {blank record : α} {toJson : β → Json} (empty : view blank = none)
    (back : ∀ own, view record = some own → (toJson own).asOption read = .ok (some own)) :
    (⟨path, (·.asOption read), view⟩ : Slot α).Holds blank ((view record).map toJson) record := by
  cases own : view record with
  | none => exact own.trans empty.symm
  | some value => exact (back value own).trans (congrArg Except.ok own.symm)

theorem Slot.holds_list {path : List String} {read : Json → Except ShapeError (List β)}
    {view : α → List β} {blank record : α} {toJson : List β → Json} (empty : view blank = [])
    (back : read (toJson (view record)) = .ok (view record)) :
    (⟨path, read, view⟩ : Slot α).Holds blank
      (SourceSettings.listValue? toJson (view record)) record := by
  cases own : view record with
  | nil => exact own.trans empty.symm
  | cons first others =>
    rw [own] at back
    exact back.trans (congrArg Except.ok own.symm)

/-! ### Durations -/

namespace Json

theorem asDuration_text {d : Time.Duration} (bounded : d.IsBounded) :
    (string d.text).asDuration = .ok d := by
  rw [asDuration, Time.Duration.parse_text bounded]
  rfl

theorem asOption_asDuration_text {d : Time.Duration} (bounded : d.IsBounded) :
    (string d.text).asOption (·.asDuration) = .ok (some d) := by
  rw [asOption, asDuration_text bounded]
  · rfl
  · simp

end Json

/-! ### Endpoints -/

namespace EndpointDefinition

/-- The parts of an endpoint. -/
def parts : List (Part EndpointDefinition) := [
  { field := "path", read := Json.asText, view := (·.path),
    put := fun endpoint value => { endpoint with path := value } },
  { field := "query", read := Json.asText, view := (·.query),
    put := fun endpoint value => { endpoint with query := value } },
  { field := "method", read := Json.asText, view := (·.method),
    put := fun endpoint value => { endpoint with method := value } },
  { field := "body", read := Json.asText, view := (·.body),
    put := fun endpoint value => { endpoint with body := value } },
  { field := "root_path", read := Json.asText, view := (·.rootPath),
    put := fun endpoint value => { endpoint with rootPath := value } },
  { field := "mapping", read := Json.asTexts, view := (·.mapping),
    put := fun endpoint value => { endpoint with mapping := value } }]

/-- How an endpoint is read whose root path has its own name. -/
def plainShape : RecordShape EndpointDefinition :=
  { shape with aliases := [] }

theorem isMadeOf_parts : plainShape.IsMadeOf parts where
  plain := rfl
  fields := rfl
  sets := by
    simp only [parts, List.forall_mem_cons]
    refine ⟨?_, ?_, ?_, ?_, ?_, ?_, by simp⟩ <;> intro record value <;> rfl
  passes := by
    intro field unknown record value
    simp only [plainShape, shape] at unknown ⊢
    split <;> first | rfl | simp at unknown
  keeps := by simp [parts]

theorem tells_parts : RecordShape.Tells parts := by
  intro endpoint other same
  cases endpoint
  cases other
  simpa [parts] using same

theorem asTexts_textsToJson {texts : List (String × String)} (ordered : IsOrdered texts) :
    (textsToJson texts).asTexts = .ok texts := by
  rw [textsToJson, Json.ofEntries, ofList_of_isOrdered]
  · rw [Json.asTexts, mapM_eq_ok_iff, List.forall₂_map_left_iff, List.forall₂_same]
    exact fun entry mem => rfl
  · simpa [IsOrdered, Function.comp_def] using ordered

variable {endpoint : EndpointDefinition} {members : List (String × Json)}

/-- **An endpoint is read** from members that hold its entries, whatever else they hold. -/
theorem readMembers_eq_ok (ordered : IsOrdered members) (typed : IsOrdered endpoint.mapping)
    (plain : get? "root" members = none)
    (shown : ∀ entry ∈ endpoint.entries, get? entry.1 members = some entry.2) :
    shape.readMembers members = .ok endpoint := by
  have distinct : (members.map (·.1)).Nodup := ordered.nodup
  have unnamed : ∀ member ∈ members, shape.aliases.lookup member.1 = none := by
    intro member mem
    have other : member.1 ≠ "root" := by
      intro same
      have found := get?_of_mem distinct mem
      rw [same, plain] at found
      exact absurd found (by simp)
    simp [shape, beq_false_of_ne other]
  have complete : ∀ field ∈ plainShape.required, (get? field members).isSome := by
    simp [plainShape, shape]
  simp only [entries, List.forall_mem_cons] at shown
  obtain ⟨path, query, method, body, rootPath, mapping, -⟩ := shown
  have holds : ∀ part ∈ parts,
      part.slot.Holds plainShape.blank (get? part.field members) endpoint := by
    simp only [parts, List.forall_mem_cons, path, query, method, body, rootPath, mapping]
    exact ⟨rfl, rfl, rfl, rfl, rfl, asTexts_textsToJson typed, by simp⟩
  rw [RecordShape.readMembers_of_plain unnamed]
  exact isMadeOf_parts.readMembers_eq_ok tells_parts distinct complete holds

/-- An endpoint is read back from its own object. -/
theorem read_toJson (typed : IsOrdered endpoint.mapping) : read endpoint.toJson = .ok endpoint := by
  have ordered := (settles_ofList endpoint.entries).2
  refine readMembers_eq_ok ordered typed ?_ ?_
  · simp [get?_ofList, entries, List.lookup_cons]
  · simp [get?_ofList, entries, List.lookup_cons]

theorem isExact_textsToJson (texts : List (String × String)) (depth : Nat) :
    Json.IsExact (depth + 1) (textsToJson texts) := by
  apply Json.isExact_ofEntries
  rw [List.forall_mem_map]
  exact fun entry _ => .string entry.2

theorem isExact_entries (endpoint : EndpointDefinition) (depth : Nat) :
    ∀ entry ∈ endpoint.entries, Json.IsExact (depth + 1) entry.2 := by
  simp only [entries, List.forall_mem_cons]
  exact ⟨.string _, .string _, .string _, .string _, .string _,
    isExact_textsToJson endpoint.mapping depth, by simp⟩

end EndpointDefinition

/-! ### Listings -/

namespace ChannelListing

/-- The parts of a listing that are not its endpoint. -/
def parts : List (Part ChannelListing) := [
  { field := "name", read := Json.asText, view := (·.name),
    put := fun listing value => { listing with name := value } },
  { field := "cache_key", read := (·.asOption (·.asText)), view := (·.entryName),
    put := fun listing value => { listing with entryName := value } }]

theorem isMadeOf_parts : shape.IsMadeOf parts where
  plain := rfl
  fields := rfl
  sets := by
    simp only [parts, List.forall_mem_cons]
    refine ⟨?_, ?_, by simp⟩ <;> intro record value <;> rfl
  passes := by
    intro field unknown record value
    simp only [shape] at unknown ⊢
    split <;> first | rfl | simp at unknown
  keeps := by simp [parts]

/-- The entries of the object that describes a listing. -/
def entries (listing : ChannelListing) : List (String × Json) :=
  [("name", .string listing.name)] ++
    SourceSettings.entry? "cache_key" .string listing.entryName ++ listing.endpoint.entries

variable {listing : ChannelListing}

theorem toJson_eq (listing : ChannelListing) : listing.toJson = .ofEntries listing.entries :=
  rfl

theorem get?_entries (listing : ChannelListing) (key : String) :
    get? key (ofList listing.entries) =
      (listing.endpoint.entries.reverse.lookup key).or
        ((if key = "cache_key" then listing.entryName.map .string else none).or
          ([("name", .string listing.name)].lookup key)) := by
  simp only [get?_ofList, entries, List.reverse_append, List.lookup_append,
    SourceSettings.reverse_entry, SourceSettings.lookup_entry, List.reverse_singleton]

/-- **A listing is read back**, with the endpoint that is spread among its members. -/
theorem read_toJson (typed : IsOrdered listing.endpoint.mapping) :
    read listing.toJson = .ok listing := by
  have ordered := (settles_ofList listing.entries).2
  have name : get? "name" (ofList listing.entries) = some (.string listing.name) := by
    simp [get?_entries, EndpointDefinition.entries, List.lookup_cons]
  have key : get? "cache_key" (ofList listing.entries) = listing.entryName.map .string := by
    simp [get?_entries, EndpointDefinition.entries, List.lookup_cons]
  have holds : ∀ part ∈ parts,
      part.slot.Holds shape.blank (get? part.field (ofList listing.entries)) listing := by
    simp only [parts, List.forall_mem_cons, name, key]
    exact ⟨rfl, Slot.holds_option rfl fun own _ => rfl, by simp⟩
  obtain ⟨result, read, same⟩ := isMadeOf_parts.exists_readMembers ordered.nodup
    (by simp [shape, name]) holds
  have endpoint : EndpointDefinition.shape.readMembers (ofList listing.entries) =
      .ok listing.endpoint := by
    refine EndpointDefinition.readMembers_eq_ok ordered typed ?_ ?_
    · simp [get?_entries, EndpointDefinition.entries, List.lookup_cons]
    · simp [get?_entries, EndpointDefinition.entries, List.lookup_cons]
  have whole : { result with endpoint := listing.endpoint } = listing := by
    cases result
    cases listing
    simpa [parts] using same
  rw [toJson_eq, Json.ofEntries, ChannelListing.read, read, endpoint]
  exact congrArg Except.ok whole

theorem isExact_toJson (listing : ChannelListing) (depth : Nat) :
    Json.IsExact (depth + 2) listing.toJson := by
  rw [toJson_eq]
  apply Json.isExact_ofEntries
  simp only [entries, List.forall_mem_append, List.forall_mem_singleton]
  exact ⟨⟨.string _, SourceSettings.isExact_entry fun key => .string key⟩,
    listing.endpoint.isExact_entries depth⟩

end ChannelListing

/-! ### Sources -/

namespace SourceSettings

/-- The parts of the settings of a source. -/
def parts : List (Part SourceSettings) := [
  { field := "name", read := Json.asText, view := (·.name),
    put := fun settings value => { settings with name := value } },
  { field := "kind", read := (·.asVariant SourcePreset.variants), view := (·.kind),
    put := fun settings value => { settings with kind := value } },
  { field := "enabled", read := Json.asBool, view := (·.enabled),
    put := fun settings value => { settings with enabled := value } },
  { field := "base_url", read := (·.asOption (·.asText)), view := (·.baseUrl),
    put := fun settings value => { settings with baseUrl := value } },
  { field := "headers", read := Json.asTexts, view := (·.headers),
    put := fun settings value => { settings with headers := value } },
  { field := "token", read := (·.asOption (·.asText)), view := (·.token),
    put := fun settings value => { settings with token := value } },
  { field := "cache_ttl", read := (·.asOption (·.asDuration)), view := (·.cacheTtl),
    put := fun settings value => { settings with cacheTtl := value } },
  { field := "channel_endpoints", read := (·.asList ChannelListing.read),
    view := (·.channelListings),
    put := fun settings value => { settings with channelListings := value } },
  { field := "episodes_endpoint", read := (·.asOption EndpointDefinition.read),
    view := (·.episodeListing),
    put := fun settings value => { settings with episodeListing := value } },
  { field := "search_endpoint", read := (·.asOption EndpointDefinition.read),
    view := (·.titleSearch),
    put := fun settings value => { settings with titleSearch := value } }]

theorem isMadeOf_parts : shape.IsMadeOf parts where
  plain := rfl
  fields := rfl
  sets := by
    simp only [parts, List.forall_mem_cons]
    refine ⟨?_, ?_, ?_, ?_, ?_, ?_, ?_, ?_, ?_, ?_, by simp⟩ <;> intro record value <;> rfl
  passes := by
    intro field unknown record value
    simp only [shape] at unknown ⊢
    split <;> first | rfl | simp at unknown
  keeps := by simp [parts]

theorem tells_parts : RecordShape.Tells parts := by
  intro settings other same
  cases settings
  cases other
  simpa [parts] using same

/-- Settings in which the entries of each map are in order, each key once, and the duration is a
word of seconds and less than a second of nanoseconds. -/
structure IsTyped (settings : SourceSettings) : Prop where
  headers : IsOrdered settings.headers
  cacheTtl : ∀ ttl, settings.cacheTtl = some ttl → ttl.IsBounded
  channelListings : ∀ listing ∈ settings.channelListings, IsOrdered listing.endpoint.mapping
  episodeListing : ∀ endpoint, settings.episodeListing = some endpoint → IsOrdered endpoint.mapping
  titleSearch : ∀ endpoint, settings.titleSearch = some endpoint → IsOrdered endpoint.mapping

/-- The entries of the object that describes a source. -/
def entries (settings : SourceSettings) : List (String × Json) := [
    ("name", .string settings.name),
    ("kind", .string settings.kind.name),
    ("enabled", .bool settings.enabled)] ++
  entry? "base_url" .string settings.baseUrl ++
  listEntry? "headers" EndpointDefinition.textsToJson settings.headers ++
  entry? "token" .string settings.token ++
  entry? "cache_ttl" (.string ·.text) settings.cacheTtl ++
  listEntry? "channel_endpoints" (.array <| ·.map (·.toJson)) settings.channelListings ++
  entry? "episodes_endpoint" (·.toJson) settings.episodeListing ++
  entry? "search_endpoint" (·.toJson) settings.titleSearch

variable {settings : SourceSettings}

theorem toJson_eq (settings : SourceSettings) : settings.toJson = .ofEntries settings.entries :=
  rfl

/-- The entries that a key may come from, the last one first. -/
theorem get?_entries (settings : SourceSettings) (key : String) :
    get? key (ofList settings.entries) =
      ((if key = "search_endpoint" then settings.titleSearch.map (·.toJson) else none).or
        ((if key = "episodes_endpoint" then settings.episodeListing.map (·.toJson) else none).or
          ((if key = "channel_endpoints" then
            listValue? (.array <| ·.map (·.toJson)) settings.channelListings else none).or
          ((if key = "cache_ttl" then settings.cacheTtl.map (.string ·.text) else none).or
          ((if key = "token" then settings.token.map .string else none).or
          ((if key = "headers" then
            listValue? EndpointDefinition.textsToJson settings.headers else none).or
          ((if key = "base_url" then settings.baseUrl.map .string else none).or
          ([("enabled", .bool settings.enabled), ("kind", .string settings.kind.name),
            ("name", .string settings.name)].lookup key)))))))) := by
  simp only [get?_ofList, entries, List.reverse_append, List.lookup_append,
    reverse_entry, lookup_entry, reverse_listEntry, lookup_listEntry]
  rfl

theorem asVariant_name (kind : SourcePreset) :
    (Json.string kind.name).asVariant SourcePreset.variants = .ok kind := by
  cases kind <;> rfl

theorem asList_listings (typed : ∀ listing ∈ settings.channelListings,
    IsOrdered listing.endpoint.mapping) :
    (Json.array (settings.channelListings.map (·.toJson))).asList ChannelListing.read =
      .ok settings.channelListings := by
  rw [Json.asList, mapM_eq_ok_iff, List.forall₂_map_left_iff, List.forall₂_same]
  exact fun listing mem => ChannelListing.read_toJson (typed listing mem)

theorem asOption_endpoint {endpoint : EndpointDefinition} (typed : IsOrdered endpoint.mapping) :
    endpoint.toJson.asOption EndpointDefinition.read = .ok (some endpoint) := by
  have read := EndpointDefinition.read_toJson typed
  rw [EndpointDefinition.toJson, Json.ofEntries] at read ⊢
  rw [Json.asOption, read]
  · rfl
  · simp

/-- **The settings of a source are read back** from their object. -/
theorem read_toJson (typed : settings.IsTyped) : read settings.toJson = .ok settings := by
  have ordered := (settles_ofList settings.entries).2
  have kind := asVariant_name settings.kind
  have headers := EndpointDefinition.asTexts_textsToJson typed.headers
  have ttl : ∀ own, settings.cacheTtl = some own →
      (Json.string own.text).asOption (·.asDuration) = .ok (some own) :=
    fun own found => Json.asOption_asDuration_text (typed.cacheTtl own found)
  have listings := asList_listings typed.channelListings
  have episodes : ∀ own, settings.episodeListing = some own →
      own.toJson.asOption EndpointDefinition.read = .ok (some own) :=
    fun own found => asOption_endpoint (typed.episodeListing own found)
  have search : ∀ own, settings.titleSearch = some own →
      own.toJson.asOption EndpointDefinition.read = .ok (some own) :=
    fun own found => asOption_endpoint (typed.titleSearch own found)
  have holds : ∀ part ∈ parts,
      part.slot.Holds shape.blank (get? part.field (ofList settings.entries)) settings := by
    simp only [parts, List.forall_mem_cons, get?_entries, List.lookup_cons, List.lookup_nil,
      String.reduceEq, reduceIte, String.reduceBEq, BEq.rfl, Option.or_some, Option.getD_none,
      Option.or_none, Option.none_or]
    exact ⟨rfl, kind, rfl, Slot.holds_option rfl fun _ _ => rfl, Slot.holds_list rfl headers,
      Slot.holds_option rfl fun _ _ => rfl, Slot.holds_option rfl ttl,
      Slot.holds_list rfl listings, Slot.holds_option rfl episodes,
      Slot.holds_option rfl search, by simp⟩
  have complete : ∀ field ∈ shape.required, (get? field (ofList settings.entries)).isSome := by
    simp [shape, get?_entries, List.lookup_cons]
  rw [toJson_eq, Json.ofEntries]
  exact isMadeOf_parts.readMembers_eq_ok tells_parts ordered.nodup complete holds

/-! ### Texts of settings -/

theorem isExact_toJson (settings : SourceSettings) (depth : Nat) :
    Json.IsExact (depth + 4) settings.toJson := by
  have endpoint (own : EndpointDefinition) : Json.IsExact (depth + 3) own.toJson :=
    Json.isExact_ofEntries (own.isExact_entries (depth + 1))
  have listings : Json.IsExact (depth + 3)
      (.array (settings.channelListings.map (·.toJson))) := by
    refine .array ?_
    rw [List.forall_mem_map]
    exact fun listing _ => listing.isExact_toJson depth
  rw [toJson_eq]
  apply Json.isExact_ofEntries
  simp only [entries, List.forall_mem_append, List.forall_mem_cons]
  exact ⟨⟨⟨⟨⟨⟨⟨⟨.string _, .string _, .bool _, by simp⟩, isExact_entry fun url => .string url⟩,
    isExact_listEntry (EndpointDefinition.isExact_textsToJson _ (depth + 2))⟩,
    isExact_entry fun token => .string token⟩, isExact_entry fun ttl => .string ttl.text⟩,
    isExact_listEntry listings⟩, isExact_entry endpoint⟩, isExact_entry endpoint⟩

/-- **The settings of a source are read back** from the object that is written of them, and the
object from every text of it: on one line, over several lines, or with its members in any order. -/
theorem source_settings_read_back (typed : settings.IsTyped) :
    read settings.toJson = .ok settings ∧
      Json.parse? settings.toJson.render = some settings.toJson ∧
      Json.parse? settings.toJson.pretty = some settings.toJson ∧
      ∀ text : String, Json.IsText Json.deepest (.value settings.toJson) text.toList →
        Json.parse? text = some settings.toJson :=
  ⟨read_toJson typed, Json.parse?_texts (settings.isExact_toJson 123)⟩

/-- Settings in which everything is given, with the longest duration there is. -/
def fullSettings : SourceSettings where
  name := "Krim \"&\" \\ nrk\n"
  kind := .untold
  enabled := false
  baseUrl := some "http://h/?a=b"
  headers := [("Accept", ""), ("x-Å", "1")]
  token := some ""
  cacheTtl := some ⟨18446744073709551615, 999999999⟩
  channelListings := [
    { name := "all", entryName := some "name", endpoint := { path := "c", rootPath := "root" } },
    { name := "", endpoint := { mapping := [("Title", "@literal:x"), ("_meta.id", "i")] } }]
  episodeListing := some { path := "e", query := "a=\"b\"", method := "POST", body := "x\ny" }
  titleSearch := some {}

theorem isTyped_fullSettings : fullSettings.IsTyped where
  headers := by decide +kernel
  cacheTtl := by
    rintro ttl ⟨⟩
    exact ⟨by decide +kernel, by decide +kernel⟩
  channelListings := by decide +kernel
  episodeListing := by
    rintro endpoint ⟨⟩
    decide +kernel
  titleSearch := by
    rintro endpoint ⟨⟩
    decide +kernel

/-- Settings with every part are read back. -/
theorem full_settings_read_back :
    fullSettings.IsTyped ∧ read fullSettings.toJson = .ok fullSettings ∧
      (Json.parse? fullSettings.toJson.render).map read = some (.ok fullSettings) ∧
      (Json.parse? fullSettings.toJson.pretty).map read = some (.ok fullSettings) := by
  obtain ⟨back, line, lines, -⟩ := source_settings_read_back isTyped_fullSettings
  refine ⟨isTyped_fullSettings, back, ?_, ?_⟩
  · rw [line, Option.map_some, back]
  · rw [lines, Option.map_some, back]

end SourceSettings

end CatalogFeeds
