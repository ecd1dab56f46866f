import CatalogFeeds.Proofs.Endpoint.Compile
import CatalogFeeds.Proofs.Engine.Elements
import CatalogFeeds.Proofs.Record.Field
import CatalogFeeds.Proofs.Record.Parts
/-!
What mappings make of an element.

A mapping may have many entries for one field. The value of the field is that of the last of them
that finds anything which suits it; entries for other fields have no part in it.

* `recordOf_eq_ok_iff` — the record of an element is what the rules set, one after the other.
* `at?_recordOf_field`, `exists_of_at?_recordOf` — it has the value of each field at the path of
  that field, and nothing else.
* `fills_of_decodeAlone` — stamped and read, it has each value in the slot of its field.
* `fields_follow_mapping` — so what an endpoint makes of its elements is told by its definition,
  field by field.
-/

namespace CatalogFeeds.Engine

open CatalogFeeds.Members

variable (engine : Engine) (modifiers : ModifierSet) (definition : EndpointDefinition)

/-- What the text of an entry finds in an element. -/
def entryValue (item : Json) (text : String) : EndpointM (Option Json) :=
  if text.startsWith Endpoint.templateMark then do
    let template := (text.drop Endpoint.templateMark.length).toString
    let text ← (Template.expand template (engine.itemVariables item)).mapError .template
    return some (.string text)
  else (Selector.evaluateText modifiers text item).mapError .resolve

/-- The value that an entry has for a field: what its text finds, if the entry is for that field and
what it finds suits it. -/
def valueFor? (item : Json) (field : Field) (entry : String × String) : Option Json :=
  if field.goesBy entry.1 then
    (engine.entryValue modifiers item entry.2).toOption.join.bind field.kind.coerce
  else none

/-- The value of a field: that of the last entry that has one for it. -/
def fieldValue (item : Json) (field : Field) : Option Json :=
  (definition.mapping.filterMap (engine.valueFor? modifiers item field)).getLast?

/-- What a rule sets. -/
def setting? (item : Json) (rule : FieldRule) : Option (Field × Json) :=
  ((engine.mappedValue item rule.source).toOption.join.bind rule.field.kind.coerce).map
    (rule.field, ·)

/-- Each field that mappings may set has a slot, and there the record holds the value of the field
as it is read. -/
def Fills {α : Type} (fields : List Field) (slots : List (Slot α)) (blank : α) (item : Json)
    (record : α) : Prop :=
  ∀ field ∈ fields, field.readOnly = false → ∃ slot ∈ slots, slot.path = fieldPath field.name ∧
    slot.Holds blank (engine.fieldValue modifiers definition item field) record

variable {engine modifiers definition} {schema : Schema} {endpoint : Endpoint} {item : Json}
  {field : Field} {record : List (String × Json)}

/-! ### Rules -/

theorem mappedValue_eq_entryValue {text : String} {source : Extraction}
    (read : Endpoint.IsRead modifiers text source) :
    engine.mappedValue item source = engine.entryValue modifiers item text := by
  cases read with
  | template marked _ => simp only [mappedValue, entryValue, marked, if_true]
  | path plain parsed =>
    simp only [mappedValue, entryValue, plain, Bool.false_eq_true, if_false,
      Selector.evaluateText, parsed]
    rfl

/-- A rule sets its field to what it finds, unless that is nothing. -/
theorem setMapped_eq_ok_iff {after : List (String × Json)} {rule : FieldRule} :
    engine.setMapped item record rule = .ok after ↔
      (∃ found, engine.mappedValue item rule.source = .ok found) ∧
        after = setFields record (engine.setting? item rule).toList := by
  unfold setMapped setting?
  cases found : engine.mappedValue item rule.source with
  | error error => simp [bind, Except.bind]
  | ok value =>
    cases coerced : value.bind rule.field.kind.coerce <;>
      simp [bind, Except.bind, Except.toOption, coerced, setFields, pure, Except.pure, eq_comm]

theorem setFields_toList (settings : List (Field × Json)) (setting : Option (Field × Json)) :
    setFields (setFields record setting.toList) settings =
      setFields record (setting.toList ++ settings) := by
  rw [setFields, setFields, setFields, List.foldl_append]

/-- Rules set their fields one after the other, and fail if one of them does. -/
theorem foldlM_setMapped_eq_ok_iff {rules : List FieldRule} {after : List (String × Json)} :
    rules.foldlM (engine.setMapped item) record = .ok after ↔
      (∀ rule ∈ rules, ∃ found, engine.mappedValue item rule.source = .ok found) ∧
        after = setFields record (rules.filterMap (engine.setting? item)) := by
  induction rules generalizing record with
  | nil => simp [setFields, pure, Except.pure, eq_comm]
  | cons rule rules ih =>
    have settings : (rule :: rules).filterMap (engine.setting? item) =
        (engine.setting? item rule).toList ++ rules.filterMap (engine.setting? item) := by
      cases own : engine.setting? item rule <;> simp [own]
    rw [List.foldlM_cons, bind_eq_ok_iff, List.forall_mem_cons, settings, ← setFields_toList]
    constructor
    · rintro ⟨next, first, later⟩
      obtain ⟨found, rfl⟩ := setMapped_eq_ok_iff.mp first
      obtain ⟨others, same⟩ := ih.mp later
      exact ⟨⟨found, others⟩, same⟩
    · rintro ⟨⟨found, others⟩, same⟩
      exact ⟨_, setMapped_eq_ok_iff.mpr ⟨found, rfl⟩, ih.mpr ⟨others, same⟩⟩

/-! ### Records -/

/-- **The record of an element** is what the rules set, one after the other. -/
theorem recordOf_eq_ok_iff :
    engine.recordOf endpoint item = .ok record ↔
      (∀ rule ∈ endpoint.mappings, ∃ found, engine.mappedValue item rule.source = .ok found) ∧
        record = setFields [] (endpoint.mappings.filterMap (engine.setting? item)) :=
  foldlM_setMapped_eq_ok_iff

section Compiled

variable (compiled : Endpoint.compile modifiers definition schema = .ok endpoint)
include compiled

/-- An element has a record exactly if no entry of the mapping fails. -/
theorem exists_recordOf_iff :
    (∃ record, engine.recordOf endpoint item = .ok record) ↔
      ∀ entry ∈ definition.mapping, ∃ found,
        engine.entryValue modifiers item entry.2 = .ok found := by
  have rules := Endpoint.rules_of_compile compiled
  simp only [recordOf_eq_ok_iff, exists_and_left, exists_eq, and_true]
  generalize definition.mapping = entries at rules
  generalize endpoint.mappings = mappings at rules
  induction rules with
  | nil => simp
  | @cons entry rule _ _ made _ ih =>
    obtain ⟨-, -, read⟩ := made
    rw [List.forall_mem_cons, List.forall_mem_cons, mappedValue_eq_entryValue read]
    exact and_congr Iff.rfl ih

/-- What the rules set is set for fields of the schema that mappings may set. -/
theorem field_of_setting {setting : Field × Json}
    (mem : setting ∈ endpoint.mappings.filterMap (engine.setting? item)) :
    setting.1 ∈ schema.fields ∧ setting.1.readOnly = false := by
  obtain ⟨rule, inside, own⟩ := List.mem_filterMap.mp mem
  obtain ⟨value, -, rfl⟩ := Option.map_eq_some_iff.mp own
  exact Endpoint.mapping_of_compile compiled rule inside

/-- What the rules set last for a field is what the entries have for it. -/
theorem lastFor?_settings (mem : field ∈ schema.fields) :
    lastFor? field (endpoint.mappings.filterMap (engine.setting? item)) =
      engine.fieldValue modifiers definition item field := by
  rw [lastFor?, fieldValue, List.filterMap_filterMap]
  congr 1
  refine (filterMap_eq_of_forall₂ ((Endpoint.rules_of_compile compiled).imp ?_)).symm
  intro entry rule made
  obtain ⟨found, -, read⟩ := made
  obtain ⟨inside, called⟩ := Schema.lookup?_eq_some_iff.mp found
  by_cases same : rule.field = field
  · subst same
    rw [valueFor?, if_pos called, setting?, mappedValue_eq_entryValue read]
    cases (engine.entryValue modifiers item entry.2).toOption.join.bind rule.field.kind.coerce with
    | none => rfl
    | some value => simp
  · have other : field.goesBy entry.1 = false := by
      by_contra own
      exact same (Schema.eq_of_goesBy inside mem called (by simpa using own))
    rw [valueFor?, if_neg (by simp [other]), setting?]
    cases (engine.mappedValue item rule.source).toOption.join.bind rule.field.kind.coerce with
    | none => rfl
    | some value => simp [same]

variable (h : engine.recordOf endpoint item = .ok record)
include h

/-- **At the path of a field** the record of an element has the value of the field. -/
theorem at?_recordOf_field (mem : field ∈ schema.fields) :
    (Json.object record).at? (fieldPath field.name) =
      engine.fieldValue modifiers definition item field := by
  obtain ⟨-, rfl⟩ := recordOf_eq_ok_iff.mp h
  have apart : ∀ setting ∈ endpoint.mappings.filterMap (engine.setting? item),
      setting.1 ≠ field → Apart (fieldPath setting.1.name) (fieldPath field.name) := by
    intro setting inside ne
    exact Schema.apart_of_ne (field_of_setting compiled inside).1 mem ne
  have blank : (Json.object []).at? (fieldPath field.name) = none := by
    obtain ⟨key, rest, path⟩ := List.exists_cons_of_ne_nil (fieldPath_ne_nil field.name)
    rw [path]
    rfl
  rw [at?_setFields apart, lastFor?_settings compiled mem, blank, Option.or_none]

/-- **There is nothing else** in the record of an element: what is at a path is on the way to a field
that has a value, or inside that value. -/
theorem exists_of_at?_recordOf {path : List String} {found : Json}
    (there : (Json.object record).at? path = some found) :
    path = [] ∨ ∃ field ∈ schema.fields,
      (engine.fieldValue modifiers definition item field).isSome ∧
        (path <+: fieldPath field.name ∨ fieldPath field.name <+: path) := by
  obtain ⟨-, rfl⟩ := recordOf_eq_ok_iff.mp h
  rcases exists_of_at?_setFields there with ⟨setting, mem, meets⟩ | blank
  · obtain ⟨own, free⟩ := field_of_setting compiled mem
    refine .inr ⟨setting.1, own, ?_, ?_⟩
    · rw [← lastFor?_settings compiled own]
      exact isSome_lastFor? mem
    · by_contra beside
      rw [not_or] at beside
      exact meets ⟨beside.2, beside.1⟩
  · cases path with
    | nil => exact .inl rfl
    | cons key rest => simp [get?] at blank

/-- The picture and the origin of a channel are objects, if they are there at all. -/
theorem isNode_recordOf : IsNode "image" record ∧ IsNode "_meta" record := by
  obtain ⟨-, rfl⟩ := recordOf_eq_ok_iff.mp h
  have elsewhere : ∀ setting ∈ endpoint.mappings.filterMap (engine.setting? item),
      fieldPath setting.1.name ≠ ["image"] ∧ fieldPath setting.1.name ≠ ["_meta"] := by
    intro setting mem
    obtain ⟨own, free⟩ := field_of_setting compiled mem
    exact (Schema.path_of_free own free).2.2
  have empty : ∀ key, IsNode key [] := by
    intro key value found
    simp [get?] at found
  exact ⟨isNode_setFields (empty _) fun setting mem => (elsewhere setting mem).1,
    isNode_setFields (empty _) fun setting mem => (elsewhere setting mem).2⟩

end Compiled

/-! ### Stamped records that are read -/

/-- **What is read of a stamped record** has the value of each field in the slot of that field, if
reading a record fills its slots. -/
theorem fills_of_decodeAlone {α : Type} {read : Json → Except ShapeError α} {slots : List (Slot α)}
    {blank result : α}
    (compiled : Endpoint.compile modifiers definition schema = .ok endpoint)
    (paths : slots.map (·.path) =
      (schema.fields.filter (!·.readOnly)).map (fieldPath ·.name))
    (filled : ∀ members, read (.object members) = .ok result → IsNode "image" members →
      IsNode "_meta" members →
      ∀ slot ∈ slots, slot.Holds blank ((Json.object members).at? slot.path) result)
    (alone : engine.decodeAlone endpoint read item = .ok result) :
    engine.Fills modifiers definition schema.fields slots blank item result := by
  obtain ⟨record, mapped, fits⟩ := bind_eq_ok_iff.mp alone
  rw [mapError_eq_ok_iff] at mapped fits
  obtain ⟨image, origin⟩ := isNode_recordOf compiled mapped
  intro field mem free
  have listed : fieldPath field.name ∈ slots.map (·.path) := by
    rw [paths]
    exact List.mem_map_of_mem (List.mem_filter.mpr ⟨mem, by simp [free]⟩)
  obtain ⟨slot, inside, path⟩ := List.mem_map.mp listed
  obtain ⟨named, keyed, -⟩ := Schema.path_of_free mem free
  have held := filled _ fits (isNode_stamp image _ _) (isNode_stamp origin _ _) slot inside
  rw [path, at?_stamp_of_apart _ _ _ named keyed, at?_recordOf_field compiled mapped mem] at held
  exact ⟨slot, inside, path, held⟩

variable (engine) in
/-- **What an endpoint makes of its elements is told by its definition, field by field.** An element
on which no entry of the mapping fails has a record. At the path of a field it has the value of the
field, which is that of the last entry for the field that has one, and there is nothing in it but
these values and what is on the way to them. In a channel or an episode that a payload decodes to,
each slot that a mapping may fill holds the value of its field as it is read, and where there is no
value it is as in a blank record. -/
theorem fields_follow_mapping
    (compiled : Endpoint.compile modifiers definition schema = .ok endpoint) :
    (∀ item, (∀ entry ∈ definition.mapping, ∃ found,
        engine.entryValue modifiers item entry.2 = .ok found) →
      ∃ record, engine.recordOf endpoint item = .ok record ∧
        (∀ field ∈ schema.fields, (Json.object record).at? (fieldPath field.name) =
          engine.fieldValue modifiers definition item field) ∧
        ∀ path found, (Json.object record).at? path = some found → path = [] ∨
          ∃ field ∈ schema.fields, (engine.fieldValue modifiers definition item field).isSome ∧
            (path <+: fieldPath field.name ∨ fieldPath field.name <+: path)) ∧
    (schema = .channel → ∀ payload channels,
      engine.decodeChannels endpoint payload = .ok channels →
      ∃ items, RootItems endpoint payload items ∧
        List.Forall₂ (engine.Fills modifiers definition schema.fields Channel.slots {})
          items channels) ∧
    (schema = .episode → ∀ payload episodes,
      engine.decodeEpisodes endpoint payload = .ok episodes →
      ∃ items, RootItems endpoint payload items ∧
        List.Forall₂ (engine.Fills modifiers definition schema.fields Episode.slots {})
          items episodes) := by
  refine ⟨?_, ?_, ?_⟩
  · intro item found
    obtain ⟨record, mapped⟩ := (exists_recordOf_iff compiled).mpr found
    exact ⟨record, mapped, fun field mem => at?_recordOf_field compiled mapped mem,
      fun path found there => exists_of_at?_recordOf compiled mapped there⟩
  · rintro rfl payload channels decoded
    obtain ⟨items, root, each⟩ := decode_eq_ok_iff.mp decoded
    refine ⟨items, root, each.imp ?_⟩
    intro item channel alone
    refine fills_of_decodeAlone compiled Channel.path_slots ?_ alone
    intro members read image origin slot mem
    exact Channel.holds_of_read read image origin mem
  · rintro rfl payload episodes decoded
    obtain ⟨items, root, each⟩ := decode_eq_ok_iff.mp decoded
    refine ⟨items, root, each.imp ?_⟩
    intro item episode alone
    refine fills_of_decodeAlone compiled Episode.path_slots ?_ alone
    intro members read _ _ slot mem
    exact Episode.holds_of_read read mem

/-- Two entries for the address of a picture, the later of which finds nothing, and one for its
title, which shares an object with it. -/
theorem fields_follow_mapping_aliases :
    let definition : EndpointDefinition := {
      mapping := [("Image.Href", "art"), ("Image.Title", "name"), ("imageURL", "cover")] }
    let item : Json :=
      .object [("art", .string "a.png"), ("cover", .null), ("name", .string "A")]
    ∃ endpoint, Endpoint.compile .builtin definition .channel = .ok endpoint ∧
      ∀ engine : Engine, ∃ record, engine.recordOf endpoint item = .ok record ∧
        (Json.object record).at? ["image", "url"] = some (.string "a.png") ∧
        (Json.object record).at? ["image", "title"] = some (.string "A") ∧
        (Json.object record).at? ["title"] = none := by
  intro definition item
  have found : (Endpoint.compile .builtin definition .channel).toOption.isSome = true := by
    decide +kernel
  obtain ⟨endpoint, own⟩ := Option.isSome_iff_exists.mp found
  have compiled := toOption_eq_some_iff.mp own
  refine ⟨endpoint, compiled, fun engine => ?_⟩
  have works : ∀ entry ∈ definition.mapping, ∃ found,
      engine.entryValue .builtin item entry.2 = .ok found := by
    simp only [definition, List.forall_mem_cons]
    exact ⟨⟨_, rfl⟩, ⟨_, rfl⟩, ⟨_, rfl⟩, by simp⟩
  obtain ⟨record, mapped, fields, -⟩ := (fields_follow_mapping engine compiled).1 item works
  have url := fields
    { name := "image.url", kind := .text, aliases := ["imageUrl", "image.href"] } (by decide)
  have title := fields { name := "image.title", kind := .text } (by decide)
  have own := fields { name := "title", kind := .text } (by decide)
  exact ⟨record, mapped, url.trans rfl, title.trans rfl, own.trans rfl⟩

end CatalogFeeds.Engine
