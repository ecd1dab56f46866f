import CatalogFeeds.Endpoint.Basic
import CatalogFeeds.Proofs.Results
/-!
What compiling an endpoint establishes.

* `compileMapping_eq_ok_iff` — an entry of a mapping compiles exactly if its target is a field that
  may be set and its text can be read; the definition around it shows in errors only.
* `compile_eq_ok_iff`, `exists_compile_iff` — an endpoint compiles exactly if each of its parts does.
* `checkTemplate_of_mem`, `exists_parse_of_mem` — the templates of a compiled mapping have been
  checked, and its path expressions have been read.
* `mapping_of_compile` — the fields of a compiled mapping are those of its schema that are not the
  engine's own.
-/

namespace CatalogFeeds.Endpoint

variable {modifiers : ModifierSet} {definition : EndpointDefinition} {schema : Schema}

/-- What the text of an entry is read as: a template behind the mark of templates, else a path
expression. -/
inductive IsRead (modifiers : ModifierSet) (text : String) : Extraction → Prop
  | template : text.startsWith templateMark = true →
    checkTemplate (text.drop templateMark.length).toString = .ok () →
    IsRead modifiers text (.template (text.drop templateMark.length).toString)
  | path {expression : Selector} : text.startsWith templateMark = false →
    Selector.parse modifiers text = .ok expression →
    IsRead modifiers text (.path expression)

/-- **When an entry of a mapping compiles.** -/
theorem compileMapping_eq_ok_iff {target text : String} {rule : FieldRule} :
    compileMapping modifiers definition schema target text = .ok rule ↔
      schema.lookup? target = some rule.field ∧ rule.field.readOnly = false ∧
        IsRead modifiers text rule.source := by
  obtain ⟨own, source⟩ := rule
  unfold compileMapping
  cases found : schema.lookup? target with
  | none => simp [throw, throwThe, MonadExceptOf.throw]
  | some field =>
    cases free : field.readOnly with
    | true =>
      have bound : field = own → own.readOnly ≠ false := by
        rintro rfl
        simp [free]
      simp only [free, if_true, throw, throwThe, MonadExceptOf.throw, bind, Except.bind, reduceCtorEq,
        Option.some.injEq, false_iff, not_and]
      exact fun same none => absurd none (bound same)
    | false =>
      simp only [free, Bool.false_eq_true, if_false, Option.some.injEq]
      by_cases mark : text.startsWith templateMark = true
      · simp only [mark, if_true]
        constructor
        · intro h
          obtain ⟨⟨⟩, checked, same⟩ := bind_eq_ok_iff.mp h
          obtain ⟨rfl, rfl⟩ := FieldRule.mk.inj (Except.ok.inj same)
          exact ⟨rfl, free, .template mark checked⟩
        · rintro ⟨rfl, -, read⟩
          cases read with
          | template _ checked => exact bind_eq_ok_iff.mpr ⟨(), checked, rfl⟩
          | path plain _ => simp [mark] at plain
      · simp only [Bool.not_eq_true] at mark
        simp only [mark, Bool.false_eq_true, if_false]
        constructor
        · intro h
          split at h
          · rename_i expression read
            obtain ⟨rfl, rfl⟩ := FieldRule.mk.inj (Except.ok.inj h)
            exact ⟨rfl, free, .path mark read⟩
          · exact absurd h throw_ne_ok
        · rintro ⟨rfl, -, read⟩
          cases read with
          | template marked _ => simp [mark] at marked
          | path _ read =>
            rw [read]
            rfl

/-- **When an endpoint compiles**, and to what. -/
theorem compile_eq_ok_iff {endpoint : Endpoint} :
    compile modifiers definition schema = .ok endpoint ↔
      checkTemplate definition.path = .ok () ∧ checkTemplate definition.query = .ok () ∧
      checkTemplate definition.body = .ok () ∧
      method? definition.method (!definition.body.isEmpty) = some endpoint.method ∧
      Selector.parse modifiers definition.rootPath = .ok endpoint.root ∧
      (definition.mapping.mapM fun (target, text) =>
        compileMapping modifiers definition schema target text) = .ok endpoint.mappings ∧
      endpoint.definition = definition ∧ endpoint.schema = schema := by
  obtain ⟨own, kind, root, mappings, method⟩ := endpoint
  unfold compile
  constructor
  · intro h
    obtain ⟨⟨⟩, path, h⟩ := bind_eq_ok_iff.mp h
    obtain ⟨⟨⟩, query, h⟩ := bind_eq_ok_iff.mp h
    obtain ⟨⟨⟩, body, h⟩ := bind_eq_ok_iff.mp h
    split at h
    · rename_i name known
      obtain ⟨selector, read, h⟩ := bind_eq_ok_iff.mp h
      obtain ⟨rules, compiled, same⟩ := bind_eq_ok_iff.mp h
      obtain ⟨rfl, rfl, rfl, rfl, rfl⟩ := Endpoint.mk.inj (Except.ok.inj same)
      exact ⟨path, query, body, known, mapError_eq_ok_iff.mp read, compiled, rfl, rfl⟩
    · exact absurd h throw_ne_ok
  · rintro ⟨path, query, body, known, read, compiled, rfl, rfl⟩
    refine bind_eq_ok_iff.mpr ⟨(), path, bind_eq_ok_iff.mpr ⟨(), query,
      bind_eq_ok_iff.mpr ⟨(), body, ?_⟩⟩⟩
    simp only [known]
    exact bind_eq_ok_iff.mpr ⟨root, mapError_eq_ok_iff.mpr read,
      bind_eq_ok_iff.mpr ⟨mappings, compiled, rfl⟩⟩

/-- Whether an endpoint compiles is settled by its parts, entry by entry. -/
theorem exists_compile_iff :
    (∃ endpoint, compile modifiers definition schema = .ok endpoint) ↔
      checkTemplate definition.path = .ok () ∧ checkTemplate definition.query = .ok () ∧
      checkTemplate definition.body = .ok () ∧
      (∃ method, method? definition.method (!definition.body.isEmpty) = some method) ∧
      (∃ root, Selector.parse modifiers definition.rootPath = .ok root) ∧
      ∀ entry ∈ definition.mapping, ∃ field, schema.lookup? entry.1 = some field ∧
        field.readOnly = false ∧ ∃ source, IsRead modifiers entry.2 source := by
  have entries : (∃ rules, (definition.mapping.mapM fun (target, text) =>
      compileMapping modifiers definition schema target text) = .ok rules) ↔
      ∀ entry ∈ definition.mapping, ∃ field, schema.lookup? entry.1 = some field ∧
        field.readOnly = false ∧ ∃ source, IsRead modifiers entry.2 source := by
    rw [exists_mapM_ok_iff]
    refine forall₂_congr fun entry _ => ⟨?_, ?_⟩
    · rintro ⟨rule, compiled⟩
      obtain ⟨found, free, read⟩ := compileMapping_eq_ok_iff.mp compiled
      exact ⟨rule.field, found, free, rule.source, read⟩
    · rintro ⟨field, found, free, source, read⟩
      exact ⟨⟨field, source⟩, compileMapping_eq_ok_iff.mpr ⟨found, free, read⟩⟩
  rw [← entries]
  constructor
  · rintro ⟨endpoint, compiled⟩
    obtain ⟨path, query, body, known, read, rules, -, -⟩ := compile_eq_ok_iff.mp compiled
    exact ⟨path, query, body, ⟨_, known⟩, ⟨_, read⟩, _, rules⟩
  · rintro ⟨path, query, body, ⟨method, known⟩, ⟨root, read⟩, rules, compiled⟩
    exact ⟨⟨definition, schema, root, rules, method⟩,
      compile_eq_ok_iff.mpr ⟨path, query, body, known, read, compiled, rfl, rfl⟩⟩

/-- The rules of an endpoint are those of its entries, in their order. -/
theorem rules_of_compile {endpoint : Endpoint}
    (h : compile modifiers definition schema = .ok endpoint) :
    List.Forall₂ (fun entry rule => schema.lookup? entry.1 = some rule.field ∧
        rule.field.readOnly = false ∧ IsRead modifiers entry.2 rule.source)
      definition.mapping endpoint.mappings := by
  obtain ⟨-, -, -, -, -, compiled, -, -⟩ := compile_eq_ok_iff.mp h
  exact (mapM_eq_ok_iff.mp compiled).imp fun _ _ made => compileMapping_eq_ok_iff.mp made

/-- The templates of a compiled mapping have been checked. -/
theorem checkTemplate_of_mem {endpoint : Endpoint}
    (h : compile modifiers definition schema = .ok endpoint) {rule : FieldRule} {text : String}
    (mem : rule ∈ endpoint.mappings) (source : rule.source = .template text) :
    checkTemplate text = .ok () := by
  obtain ⟨-, -, -, -, -, compiled, -, -⟩ := compile_eq_ok_iff.mp h
  obtain ⟨entry, -, made⟩ := exists_of_mem_mapM compiled mem
  obtain ⟨-, -, read⟩ := compileMapping_eq_ok_iff.mp made
  rw [source] at read
  cases read with
  | template _ checked => exact checked

/-- The path expressions of a compiled mapping have been read. -/
theorem exists_parse_of_mem {endpoint : Endpoint}
    (h : compile modifiers definition schema = .ok endpoint) {rule : FieldRule}
    {expression : Selector} (mem : rule ∈ endpoint.mappings)
    (source : rule.source = .path expression) :
    ∃ text, Selector.parse modifiers text = .ok expression := by
  obtain ⟨-, -, -, -, -, compiled, -, -⟩ := compile_eq_ok_iff.mp h
  obtain ⟨entry, -, made⟩ := exists_of_mem_mapM compiled mem
  obtain ⟨-, -, read⟩ := compileMapping_eq_ok_iff.mp made
  rw [source] at read
  cases read with
  | path _ read => exact ⟨entry.2, read⟩

/-- **What a compiled mapping sets**: fields of its schema that are not the engine's own. -/
theorem mapping_of_compile {endpoint : Endpoint}
    (h : compile modifiers definition schema = .ok endpoint) :
    ∀ rule ∈ endpoint.mappings, rule.field ∈ schema.fields ∧ rule.field.readOnly = false := by
  obtain ⟨-, -, -, -, -, compiled, -, -⟩ := compile_eq_ok_iff.mp h
  intro rule mem
  obtain ⟨entry, -, made⟩ := exists_of_mem_mapM compiled mem
  obtain ⟨found, free, -⟩ := compileMapping_eq_ok_iff.mp made
  exact ⟨List.mem_of_find?_eq_some found, free⟩

end CatalogFeeds.Endpoint
