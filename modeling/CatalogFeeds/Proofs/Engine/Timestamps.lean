import CatalogFeeds.Proofs.Engine.Fields
import CatalogFeeds.Proofs.Record.Timestamps
/-!
Timestamps of elements.

A text or a number that is no timestamp is as good as nothing: the rule that finds it sets nothing,
and the element is decoded as it would be without that rule.

* `setMapped_of_isSilent`, `decodeAlone_speaking` — a rule that finds such a value leaves the record
  as it is, and so the whole element.
* `instant_eq_some_iff` — the instant in a record is the one that the last entry denotes which says
  anything for its field.
* `timestamps_read_back` — so timestamps are read as what they denote, and do not fail a payload
  otherwise.
-/

namespace CatalogFeeds.Engine

open CatalogFeeds.Time

variable (engine : Engine) (modifiers : ModifierSet) (definition : EndpointDefinition)

/-! ### Rules that say nothing -/

/-- A rule for an instant that finds a text or a number which is no timestamp. -/
def IsSilent (item : Json) (rule : FieldRule) : Prop :=
  rule.field.kind = .timestamp ∧
    ∃ value ∈ (engine.mappedValue item rule.source).toOption.join, value.IsNoTimestamp

instance (item : Json) : DecidablePred (engine.IsSilent item) :=
  fun _ => inferInstanceAs (Decidable (_ ∧ _))

/-- An endpoint with only the rules that are not silent about an element. -/
def speaking (endpoint : Endpoint) (item : Json) : Endpoint :=
  { endpoint with mappings := endpoint.mappings.filter (¬ engine.IsSilent item ·) }

variable {engine} {item : Json} {endpoint : Endpoint} {record : List (String × Json)}
  {rule : FieldRule}

/-- **A silent rule sets nothing.** -/
theorem setMapped_of_isSilent (silent : engine.IsSilent item rule) :
    engine.setMapped item record rule = .ok record := by
  obtain ⟨kind, value, there, useless⟩ := silent
  have found : engine.mappedValue item rule.source = .ok (some value) :=
    toOption_eq_some_iff.mp (Option.join_eq_some_iff.mp there)
  have none : FieldType.timestamp.coerce value = none := Json.coerce_eq_none_iff.mpr useless
  simp only [setMapped, found, kind, bind, Except.bind, Option.bind_some, none]
  rfl

theorem recordOf_speaking :
    engine.recordOf (engine.speaking endpoint item) item = engine.recordOf endpoint item := by
  unfold recordOf speaking
  simp only
  generalize ([] : List (String × Json)) = record
  induction endpoint.mappings generalizing record with
  | nil => rfl
  | cons rule rules ih =>
    by_cases silent : engine.IsSilent item rule
    · rw [List.filter_cons_of_neg (by simpa using silent), List.foldlM_cons,
        setMapped_of_isSilent silent, ih]
      rfl
    · rw [List.filter_cons_of_pos (by simpa using silent), List.foldlM_cons, List.foldlM_cons]
      simp only [ih]

/-- **An element is decoded** as it would be without the rules that are silent about it. -/
theorem decodeAlone_speaking {α : Type} (read : Json → Except ShapeError α) :
    engine.decodeAlone (engine.speaking endpoint item) read item =
      engine.decodeAlone endpoint read item := by
  unfold decodeAlone
  rw [recordOf_speaking]
  rfl

/-! ### Fields that hold instants -/

variable (engine) in
/-- What an entry says for a field that holds an instant: what its text finds, if the entry is for
that field, unless that is a text or a number which is no timestamp. -/
def said? (item : Json) (field : Field) (entry : String × String) : Option Json :=
  if field.goesBy entry.1 then
    (engine.entryValue modifiers item entry.2).toOption.join.filter (¬ ·.IsNoTimestamp)
  else none

variable (engine) in
/-- What the definition says for a field that holds an instant. -/
def lastSaid? (item : Json) (field : Field) : Option Json :=
  (definition.mapping.filterMap (engine.said? modifiers item field)).getLast?

variable {modifiers definition} {field : Field}

theorem valueFor?_eq_said? (kind : field.kind = .timestamp) (entry : String × String) :
    engine.valueFor? modifiers item field entry =
      (engine.said? modifiers item field entry).bind FieldType.timestamp.coerce := by
  unfold valueFor? said?
  rw [kind]
  by_cases own : field.goesBy entry.1 = true
  · rw [if_pos own, if_pos own]
    cases (engine.entryValue modifiers item entry.2).toOption.join with
    | none => rfl
    | some value =>
      rw [Option.filter_some, Option.bind_some]
      by_cases useless : value.IsNoTimestamp
      · simpa [useless] using Json.coerce_eq_none_iff.mpr useless
      · simp [useless]
  · rw [if_neg own, if_neg own]
    rfl

/-- What an entry says is coerced to something. -/
theorem coerce_said? {entry : String × String} {value : Json}
    (said : engine.said? modifiers item field entry = some value) :
    (FieldType.timestamp.coerce value).isSome := by
  rw [Option.isSome_iff_ne_none, ne_eq, Json.coerce_eq_none_iff]
  unfold said? at said
  split at said
  · obtain ⟨-, useful⟩ := Option.filter_eq_some_iff.mp said
    simpa using useful
  · cases said

theorem coerce_lastSaid? {value : Json}
    (said : engine.lastSaid? modifiers definition item field = some value) :
    (FieldType.timestamp.coerce value).isSome := by
  obtain ⟨entry, -, own⟩ := List.mem_filterMap.mp (List.mem_of_getLast? said)
  exact coerce_said? own

theorem fieldValue_eq_lastSaid? (kind : field.kind = .timestamp) :
    engine.fieldValue modifiers definition item field =
      (engine.lastSaid? modifiers definition item field).bind FieldType.timestamp.coerce := by
  unfold fieldValue lastSaid?
  rw [funext (valueFor?_eq_said? kind)]
  induction definition.mapping using List.reverseRecOn with
  | nil => rfl
  | append_singleton entries entry ih =>
    rw [List.filterMap_append, List.filterMap_append, List.getLast?_append, List.getLast?_append,
      ih]
    cases said : engine.said? modifiers item field entry with
    | none => simp [said]
    | some value =>
      obtain ⟨result, coerced⟩ := Option.isSome_iff_exists.mp (coerce_said? said)
      simp [said, coerced]

/-- A slot for an instant. -/
def instantSlot {α : Type} (path : List String) (view : α → Option Instant) : Slot α where
  path := path
  read := (·.asOption (·.asInstant))
  view := view

/-- **The instant in a slot** is the one that the value denotes which was said last, and without
such a value there is none. -/
theorem instant_eq_some_iff {α : Type} {path : List String} {view : α → Option Instant}
    {blank after : α} (kind : field.kind = .timestamp) (empty : view blank = none)
    (held : (instantSlot path view).Holds blank
      (engine.fieldValue modifiers definition item field) after) (t : Instant) :
    view after = some t ↔
      ∃ value, engine.lastSaid? modifiers definition item field = some value ∧ value.Denotes t := by
  rw [fieldValue_eq_lastSaid? kind] at held
  cases said : engine.lastSaid? modifiers definition item field with
  | none =>
    rw [said] at held
    have none : view after = view blank := held.of_none rfl
    simp [none, empty]
  | some value =>
    have useful := coerce_lastSaid? said
    obtain ⟨result, coerced⟩ := Option.isSome_iff_exists.mp useful
    rw [said, Option.bind_some, coerced] at held
    simp only [Option.some.injEq, exists_eq_left']
    exact Json.read_eq_some_iff coerced (held.of_some rfl)

/-! ### Channels and episodes -/

variable (engine modifiers definition) in
/-- A record holds the instant that the value denotes which was said last of an element. -/
def HoldsSaid (schema : Schema) (item : Json) (moment : Option Instant) : Prop :=
  ∀ field ∈ schema.fields, field.kind = .timestamp → ∀ t, moment = some t ↔
    ∃ value, engine.lastSaid? modifiers definition item field = some value ∧ value.Denotes t

/-- A record that is filled holds it, if the one slot for instants is that of the field. -/
theorem holdsSaid_of_fills {α : Type} {schema : Schema} {slots : List (Slot α)} {blank after : α}
    {path : List String} {view : α → Option Instant} (distinct : (slots.map (·.path)).Nodup)
    (mem : instantSlot path view ∈ slots) (empty : view blank = none)
    (only : ∀ field ∈ schema.fields, field.kind = .timestamp →
      field.readOnly = false ∧ fieldPath field.name = path)
    (fills : engine.Fills modifiers definition schema.fields slots blank item after) :
    engine.HoldsSaid modifiers definition schema item (view after) := by
  intro field inside kind t
  obtain ⟨free, there⟩ := only field inside kind
  obtain ⟨slot, listed, own, held⟩ := fills field inside free
  obtain rfl : slot = instantSlot path view :=
    List.inj_on_of_nodup_map distinct listed mem (own.trans there)
  exact instant_eq_some_iff kind empty held t

theorem holdsSaid_lastAired {channel : Channel}
    (fills : engine.Fills modifiers definition Schema.channel.fields Channel.slots {} item
      channel) :
    engine.HoldsSaid modifiers definition .channel item channel.origin.lastAired := by
  have mem : instantSlot ["_meta", "lastAired"] (·.origin.lastAired) ∈ Channel.slots :=
    List.mem_of_getElem? (show Channel.slots[18]? = some _ from rfl)
  have distinct : (Channel.slots.map (·.path)).Nodup := by decide +kernel
  have only : ∀ field ∈ Schema.channel.fields, field.kind = .timestamp →
      field.readOnly = false ∧ fieldPath field.name = ["_meta", "lastAired"] := by
    decide +kernel
  -- Stated first, so that the view is found in the slot and not in the goal.
  have held := holdsSaid_of_fills distinct mem rfl only fills
  exact held

theorem holdsSaid_publishedAt {episode : Episode}
    (fills : engine.Fills modifiers definition Schema.episode.fields Episode.slots {} item
      episode) :
    engine.HoldsSaid modifiers definition .episode item episode.publishedAt := by
  have mem : instantSlot ["publishedAt"] (·.publishedAt) ∈ Episode.slots :=
    List.mem_of_getElem? (show Episode.slots[6]? = some _ from rfl)
  have distinct : (Episode.slots.map (·.path)).Nodup := by decide +kernel
  have only : ∀ field ∈ Schema.episode.fields, field.kind = .timestamp →
      field.readOnly = false ∧ fieldPath field.name = ["publishedAt"] := by
    decide +kernel
  exact holdsSaid_of_fills distinct mem rfl only fills

variable (engine) in
/-- **Timestamps are read as what they denote.** Whatever a text or a number is coerced to is read
as the one instant that it denotes, in channels and in episodes. If it denotes none, it is coerced
to nothing, the rule that finds it leaves the record as it is, and a payload decodes just as if each
element were decoded without the rules that are silent about it. In a channel or an episode that a
payload decodes to, there is the instant denoted by the value of the last entry that says anything
for the field, or else none. -/
theorem timestamps_read_back {schema : Schema}
    (compiled : Endpoint.compile modifiers definition schema = .ok endpoint) :
    (∀ value : Json, value.IsTextOrNumber → ∀ result,
      FieldType.timestamp.coerce value = some result →
      ∃ t, value.Denotes t ∧ (∀ u, value.Denotes u → u = t) ∧ result.StandsFor t) ∧
    (∀ value : Json, FieldType.timestamp.coerce value = none ↔
      value.IsTextOrNumber ∧ ∀ t, ¬ value.Denotes t) ∧
    (∀ item record rule, engine.IsSilent item rule →
      engine.setMapped item record rule = .ok record) ∧
    (∀ (α : Type) (read : Json → Except ShapeError α) payload records,
      engine.decode endpoint read payload = .ok records ↔
        ∃ items, RootItems endpoint payload items ∧ List.Forall₂ (fun item record =>
          engine.decodeAlone (engine.speaking endpoint item) read item = .ok record)
          items records) ∧
    (schema = .channel → ∀ payload channels,
      engine.decodeChannels endpoint payload = .ok channels →
      ∃ items, RootItems endpoint payload items ∧ List.Forall₂ (fun item channel =>
        engine.HoldsSaid modifiers definition schema item channel.origin.lastAired)
        items channels) ∧
    (schema = .episode → ∀ payload episodes,
      engine.decodeEpisodes endpoint payload = .ok episodes →
      ∃ items, RootItems endpoint payload items ∧ List.Forall₂ (fun item episode =>
        engine.HoldsSaid modifiers definition schema item episode.publishedAt)
        items episodes) := by
  refine ⟨fun value kind result => Json.standsFor_of_coerce kind, ?_,
    fun item record rule => setMapped_of_isSilent, ?_, ?_, ?_⟩
  · intro value
    rw [Json.coerce_eq_none_iff]
    exact ⟨fun useless => ⟨useless.kind, useless.nothing⟩, fun ⟨kind, nothing⟩ => ⟨kind, nothing⟩⟩
  · intro α read payload records
    simp only [decodeAlone_speaking]
    exact decode_eq_ok_iff
  · rintro rfl payload channels decoded
    obtain ⟨items, root, each⟩ := decode_eq_ok_iff.mp decoded
    refine ⟨items, root, each.imp ?_⟩
    intro item channel alone
    exact holdsSaid_lastAired (fills_of_decodeAlone compiled Channel.path_slots
      (fun _ read image origin _ mem => Channel.holds_of_read read image origin mem) alone)
  · rintro rfl payload episodes decoded
    obtain ⟨items, root, each⟩ := decode_eq_ok_iff.mp decoded
    refine ⟨items, root, each.imp ?_⟩
    intro item episode alone
    exact holdsSaid_publishedAt (fills_of_decodeAlone compiled Episode.path_slots
      (fun _ read _ _ _ mem => Episode.holds_of_read read mem) alone)

/-- A leap second of another zone, a year of five digits, one before the first, and a word. -/
theorem timestamps_read_back_extremes :
    let definition : EndpointDefinition := { mapping := [("Published", "at")] }
    let engine : Engine := {
      name := "s"
      baseUrl := { scheme := "http", host := some "h", path := .segments [""] }
      ttl := Engine.defaultTtl }
    let item (value : Json) : Json := .ofEntries [("at", value)]
    let payload := (Json.array [
      item (.string "2016-12-31T22:59:60.25-01:00"),
      item (.string "31 Dec 12345 23:59 GMT"),
      item (.number (.whole (-62167219201))),
      item (.string "yesterday")]).render.toUTF8
    ∃ endpoint episodes, Endpoint.compile .builtin definition .episode = .ok endpoint ∧
      engine.decodeEpisodes endpoint payload = .ok episodes ∧
      episodes.map (·.publishedAt) =
        [some ⟨1483228799, 1250000000⟩, some ⟨327434918340, 0⟩, some ⟨-62167219201, 0⟩, none] ∧
      ∃ items, RootItems endpoint payload items ∧ List.Forall₂ (fun item episode =>
        engine.HoldsSaid .builtin definition .episode item episode.publishedAt) items episodes := by
  intro definition engine item payload
  have moments : ((Endpoint.compile .builtin definition .episode).toOption.bind fun endpoint =>
      (engine.decodeEpisodes endpoint payload).toOption.map (·.map (·.publishedAt))) =
      some [some ⟨1483228799, 1250000000⟩, some ⟨327434918340, 0⟩, some ⟨-62167219201, 0⟩,
        none] := by
    decide +kernel
  obtain ⟨endpoint, own, decoded⟩ := Option.bind_eq_some_iff.mp moments
  obtain ⟨episodes, decoded, published⟩ := Option.map_eq_some_iff.mp decoded
  have compiled := toOption_eq_some_iff.mp own
  have decoded := toOption_eq_some_iff.mp decoded
  obtain ⟨-, -, -, -, -, held⟩ := timestamps_read_back engine compiled
  exact ⟨endpoint, episodes, compiled, decoded, published, held rfl _ episodes decoded⟩

end CatalogFeeds.Engine
