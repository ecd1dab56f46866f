import CatalogFeeds.Proofs.Engine.Fields
/-!
Where decoded channels say they come from.

No mapping that can be compiled sets the provenance of a channel, so the stamp is all there is of
it.

* `provenance_of_read` — what a channel says about where it comes from is at two paths of its
  record.
* `at?_recordOf_sourceUrl` — the record of an element says nothing about its endpoint before it
  is stamped.
* `origin_of_decode` — a decoded channel has the name of the engine and the key of the endpoint.
-/

namespace CatalogFeeds

open Members

/-- **The provenance of a channel that is read**, in terms of what is at its two paths. -/
theorem Channel.provenance_of_read {members : List (String × Json)} {channel : Channel}
    {source sourceUrl : String} (h : read (.object members) = .ok channel)
    (named : (Json.object members).at? ["_meta", "source"] = some (.string source))
    (keyed : (Json.object members).at? ["_meta", "sourceUrl"] =
      if sourceUrl.isEmpty then none else some (.string sourceUrl)) :
    channel.origin.source = source ∧ channel.origin.sourceUrl = sourceUrl := by
  have node := isNode_of_at? named
  have inside : ChannelOrigin.sourcePart ∈ ChannelOrigin.parts := by simp [ChannelOrigin.parts]
  have beside : ChannelOrigin.sourceUrlPart ∈ ChannelOrigin.parts := by simp [ChannelOrigin.parts]
  have held := holds_below_origin h node beside
  constructor
  · exact (Except.ok.inj ((holds_below_origin h node inside).of_some named)).symm
  · by_cases empty : sourceUrl = ""
    · rw [empty] at keyed ⊢
      exact held.of_none keyed
    · rw [if_neg (by simpa using empty)] at keyed
      exact (Except.ok.inj (held.of_some keyed)).symm

namespace Engine

variable {engine : Engine} {endpoint : Endpoint}

/-- No entry of a mapping has a value for a field that is the engine's own. -/
theorem fieldValue_of_readOnly {modifiers : ModifierSet} {definition : EndpointDefinition}
    {schema : Schema} (compiled : Endpoint.compile modifiers definition schema = .ok endpoint)
    {field : Field} (mem : field ∈ schema.fields) (own : field.readOnly = true) (item : Json) :
    engine.fieldValue modifiers definition item field = none := by
  rw [← lastFor?_settings compiled mem, lastFor?, List.getLast?_eq_none_iff,
    List.filterMap_eq_nil_iff]
  intro setting set
  have other : setting.1 ≠ field := by
    rintro rfl
    simp [(field_of_setting compiled set).2] at own
  exact if_neg other

theorem at?_recordOf_sourceUrl {modifiers : ModifierSet} {definition : EndpointDefinition}
    (compiled : Endpoint.compile modifiers definition .channel = .ok endpoint) {item : Json}
    {record : List (String × Json)} (h : engine.recordOf endpoint item = .ok record) :
    (Json.object record).at? ["_meta", "sourceUrl"] = none := by
  let own : Field := { name := Schema.sourceUrlField, kind := .text, readOnly := true }
  have mem : own ∈ Schema.channel.fields := by decide
  rw [← fieldPath_sourceUrlField, at?_recordOf_field compiled h mem]
  exact fieldValue_of_readOnly compiled mem rfl item

theorem origin_of_decodeAlone {modifiers : ModifierSet} {definition : EndpointDefinition}
    (compiled : Endpoint.compile modifiers definition .channel = .ok endpoint) {item : Json}
    {channel : Channel} (h : engine.decodeAlone endpoint Channel.read item = .ok channel) :
    channel.origin.source = engine.name ∧ channel.origin.sourceUrl = endpoint.signature := by
  obtain ⟨record, mapped, read⟩ := bind_eq_ok_iff.mp h
  rw [mapError_eq_ok_iff] at mapped read
  have keyed := at?_stamp_sourceUrl record engine.name endpoint.signature
  rw [at?_recordOf_sourceUrl compiled mapped] at keyed
  exact Channel.provenance_of_read read (at?_stamp_source ..) keyed

/-- **The origin of decoded channels.** -/
theorem origin_of_decode {modifiers : ModifierSet} {definition : EndpointDefinition}
    (compiled : Endpoint.compile modifiers definition .channel = .ok endpoint)
    {payload : ByteArray} {channels : List Channel}
    (decoded : engine.decodeChannels endpoint payload = .ok channels) :
    ∀ channel ∈ channels,
      channel.origin.source = engine.name ∧ channel.origin.sourceUrl = endpoint.signature := by
  obtain ⟨items, -, each⟩ := decode_eq_ok_iff.mp decoded
  intro channel mem
  obtain ⟨item, -, alone⟩ := exists_of_mem_mapM (mapM_eq_ok_iff.mpr each) mem
  exact origin_of_decodeAlone compiled alone

end Engine

end CatalogFeeds
