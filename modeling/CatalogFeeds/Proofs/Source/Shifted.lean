import CatalogFeeds.Engine.Decode
import CatalogFeeds.Proofs.Endpoint.Compile
import CatalogFeeds.Proofs.Path.Composition
import CatalogFeeds.Proofs.Record.Assembly
import CatalogFeeds.Source.Untold
/-!
Mappings behind a longer path.

A mapping is shifted by putting text in front of its expressions. Where the text spells keys, an
expression leads below these keys to what it led to before, and its call is the same; where an
expression is a literal it is left alone, because it does not look at the document.

* `leads_segmentText` — there is such a text for any keys.
* `parse_shifted_iff` — what a shifted expression is read as.
* `follow?_of_at?` — below keys, a longer path leads where the shorter one leads.
* `mappedValue_of_isRead` — an entry and its shifted form find the same value.
* `shifted_rules_agree` — so a shifted endpoint compiles if the endpoint does, and maps what stands
  below the keys as the endpoint maps it by itself.
-/

namespace CatalogFeeds

open CatalogFeeds.Text CatalogFeeds.Selector

/-- A text spells keys at the start of a path, with a dot behind each of them. It starts with
neither a blank, which would not count, nor an at sign, which would start a call. -/
structure Leads (start : String) (keys : List String) : Prop where
  spelled : ∃ texts, List.Forall₂ Spells texts (keys.map String.toList) ∧ start.toList = led texts
  first : ∀ c ∈ start.toList.head?, c ≠ '@' ∧ isBlank c = false
  filled : ∀ key ∈ keys, key ≠ ""

/-- **All keys can be led to**, unless one of them is empty: by a text that has a backslash in front
of each of their characters. -/
theorem leads_segmentText {keys : List String} (filled : ∀ key ∈ keys, key ≠ "") :
    Leads (String.ofList (led (keys.map segmentText))) keys := by
  refine ⟨⟨_, spell_segmentText keys, String.toList_ofList⟩, ?_, filled⟩
  rw [String.toList_ofList]
  intro c first
  cases keys with
  | nil => simp [led] at first
  | cons key rest =>
    rw [List.map_cons, led_cons, head?_segmentText (filled key List.mem_cons_self)] at first
    obtain rfl := Option.some.inj first
    decide

/-- An expression of a path: it starts with neither an at sign nor a bar nor a blank. -/
def IsPathLike (text : String) : Prop :=
  ∃ c rest, text.toList = c :: rest ∧ c ≠ '@' ∧ c ≠ '|' ∧ isBlank c = false

/-- What a literal starts with. -/
def literalMark : String := "@literal:"

/-- An expression that keeps its meaning behind a longer path. -/
def IsShiftable (text : String) : Prop :=
  text.startsWith literalMark = true ∨ IsPathLike text

variable {start text : String} {keys : List String} {modifiers : ModifierSet}

/-! ### Expressions -/

theorem IsPathLike.not_startsWith_at (plain : IsPathLike text) : text.startsWith "@" = false := by
  obtain ⟨c, rest, chars, noSign, -, -⟩ := plain
  rw [String.startsWith_string_eq_false_iff, chars]
  intro sign
  exact noSign (List.cons_prefix_cons.mp sign).1.symm

/-- What starts with a longer text starts with each part that this one starts with. -/
theorem not_startsWith_of_prefix {short : String} (long : String)
    (shorter : short.toList <+: long.toList) (none : text.startsWith short = false) :
    text.startsWith long = false := by
  rw [String.startsWith_string_eq_false_iff] at none ⊢
  exact mt shorter.trans none

theorem not_isTemplate_of_isPathLike (plain : IsPathLike text) :
    text.startsWith Endpoint.templateMark = false :=
  not_startsWith_of_prefix _ (by decide) plain.not_startsWith_at

theorem not_isTemplate_of_literal (literal : text.startsWith literalMark = true) :
    text.startsWith Endpoint.templateMark = false := by
  rw [String.startsWith_string_iff] at literal
  rw [String.startsWith_string_eq_false_iff]
  intro template
  rcases List.prefix_or_prefix_of_prefix literal template with short | short <;>
    exact absurd short (by decide)

/-- Behind keys that are spelled, an expression starts with neither an at sign nor a blank. -/
theorem head?_append (leads : Leads start keys) (plain : IsPathLike text) :
    ∀ c ∈ (start.toList ++ text.toList).head?, c ≠ '@' ∧ isBlank c = false := by
  obtain ⟨d, rest, chars, noSign, -, visible⟩ := plain
  cases own : start.toList with
  | nil => simp [chars, noSign, visible]
  | cons c more => simpa [own] using leads.first

theorem not_startsWith_at_append (leads : Leads start keys) (plain : IsPathLike text) :
    (start ++ text).startsWith "@" = false := by
  rw [String.startsWith_string_eq_false_iff, String.toList_append]
  intro sign
  have first : (start.toList ++ text.toList).head? = some '@' := by
    obtain ⟨rest, split⟩ := sign
    rw [← split]
    rfl
  exact (head?_append leads plain '@' first).1 rfl

/-- **Text in front of an expression is text in front of its path.** -/
theorem splitCall_append (leads : Leads start keys) (plain : IsPathLike text) :
    ∃ path call, path ≠ [] ∧ splitCall (trim text.toList) = (path, call) ∧
      splitCall (trim (start ++ text).toList) = (start.toList ++ path, call) := by
  obtain ⟨texts, spell, spelled⟩ := leads.spelled
  have sign : (start.toList ++ text.toList).head? ≠ some '@' := fun first =>
    (head?_append leads plain '@' first).1 rfl
  obtain ⟨c, rest, chars, noSign, noBar, visible⟩ := plain
  have first : start.toList.head?.any isBlank = false := by
    cases own : start.toList.head? with
    | none => rfl
    | some d => exact (leads.first d own).2
  have path : (splitAtBar (c :: dropEndWhile isBlank rest)).1 ≠ [] := by
    unfold splitAtBar
    split <;> simp_all
  refine ⟨_, (splitAtBar (c :: dropEndWhile isBlank rest)).2, path, ?_, ?_⟩
  · rw [chars, trim_cons visible, splitCall_of_first (by simpa using noSign)]
  · rw [String.toList_append, chars, trim_append_cons first visible, trim_cons visible,
      splitCall_of_first, spelled, unbarred_led spell]
    rw [chars] at sign
    cases own : start.toList with
    | nil => simpa [own] using sign
    | cons d more => simpa [own] using sign

/-- **What a shifted expression is read as**: the keys in front of its segments, and its call. -/
theorem parse_shifted_iff (leads : Leads start keys) (plain : IsPathLike text)
    {shifted : Selector} :
    parse modifiers (start ++ text) = .ok shifted ↔
      ∃ own, parse modifiers text = .ok own ∧
        shifted = ⟨start ++ text, keys ++ own.segments, own.modifier⟩ := by
  obtain ⟨texts, spell, spelled⟩ := leads.spelled
  obtain ⟨path, call, filled, short, long⟩ := splitCall_append leads plain
  have more : start.toList ++ path ≠ [] := by simp [filled]
  simp only [parse_eq_ok_iff, short, long, segments?_eq_ok_iff_of_ne_nil filled,
    segments?_eq_ok_iff_of_ne_nil more]
  rw [spelled, rawSegments?_led spell, Option.map_eq_some_iff]
  constructor
  · rintro ⟨source, ⟨⟨raw, found, split⟩, ends⟩, called⟩
    obtain ⟨front, rest, whole, same, others⟩ := List.map_eq_append_iff.mp split.symm
    obtain rfl := List.map_injective_iff.mpr (fun _ _ => String.toList_injective) same
    obtain rfl := others
    refine ⟨⟨text, rest, shifted.modifier⟩, ⟨rfl, ⟨found, fun segment mem => ?_⟩, called⟩, ?_⟩
    · exact ends segment (whole ▸ List.mem_append_right front mem)
    · rw [← source, ← whole]
  · rintro ⟨own, ⟨-, ⟨found, ends⟩, called⟩, rfl⟩
    refine ⟨rfl, ⟨⟨_, found, (List.map_append).symm⟩, fun segment mem => ?_⟩, called⟩
    rcases List.mem_append.mp mem with key | inside
    · exact leads.filled segment key
    · exact ends segment inside

/-- **A literal is read as one**, with whatever argument it has, if its name leads to nothing
else. -/
theorem modifier_of_literal
    (own : ∀ modifier, modifiers.get? "literal" = some modifier → modifier = .literal)
    (literal : text.startsWith literalMark = true) {selector : Selector}
    (read : parse modifiers text = .ok selector) :
    ∃ argument, selector.modifier = some ⟨.literal, some argument⟩ := by
  obtain ⟨rest, chars⟩ := String.startsWith_string_iff.mp literal
  let argument := String.ofList (dropEndWhile isBlank rest)
  have trimmed : trim text.toList = '@' :: callText ⟨.literal, some argument⟩ := by
    have stop : isBlank ':' = false := by decide
    have mark : literalMark.toList ++ rest = '@' :: ("literal".toList ++ ':' :: rest) := by
      simp [literalMark]
    rw [← chars, mark, trim_cons (by decide), dropEndWhile_append stop]
    simp [callText, Modifier.literal, argument]
  have split : splitCall (trim text.toList) = ([], some (callText ⟨.literal, some argument⟩)) := by
    simp [trimmed, callText, Modifier.literal, splitCall]
  obtain ⟨-, -, called⟩ := parse_eq_ok_iff.mp read
  rw [split] at called
  generalize selector.modifier = found at called
  cases called with
  | @some _ c isCall =>
    obtain ⟨named, given⟩ := Prod.mk.inj
      ((nameAndArgument_callText Modifier.isCallable_literal).symm.trans isCall.parts)
    have name : "literal" = c.modifier.name := String.toList_injective named
    obtain ⟨found, applied⟩ := c
    obtain rfl := own found (name ▸ isCall.known)
    obtain rfl : some argument = applied := given
    exact ⟨argument, rfl⟩

/-! ### Below keys -/

/-- Below keys, a longer path leads where the shorter one leads. -/
theorem follow?_of_at? {outer item : Json} (below : outer.at? keys = some item)
    (path : List String) : outer.follow? (keys ++ path) = item.follow? path := by
  induction keys generalizing outer with
  | nil =>
    obtain rfl := Option.some.inj ((Json.at?_nil outer).symm.trans below)
    rfl
  | cons key keys ih =>
    rw [Json.at?, Option.bind_eq_some_iff] at below
    obtain ⟨value, own, deeper⟩ := below
    cases outer with
    | object members =>
      have own : Members.get? key members = some value := own
      rw [List.cons_append, Json.follow?_object_cons, own, Option.bind_some, ih deeper]
    | _ => simp [Json.get?] at own

/-- A literal is the same in every document. -/
theorem evaluate_of_literal {selector : Selector} {argument : String}
    (literal : selector.modifier = some ⟨.literal, some argument⟩) (document other : Json) :
    selector.evaluate document = selector.evaluate other := by
  simp [evaluate, literal, Modifier.literal]

/-! ### Entries -/

/-- The text of an entry that is put behind a longer path. -/
def shiftedText (start text : String) : String :=
  if text.startsWith "@" then text else start ++ text

theorem shiftedText_of_literal (literal : text.startsWith literalMark = true) :
    shiftedText start text = text := by
  have sign : text.startsWith "@" = true := by
    rw [String.startsWith_string_iff] at literal ⊢
    exact List.IsPrefix.trans (by decide) literal
  rw [shiftedText, if_pos sign]

theorem shiftedText_of_isPathLike (plain : IsPathLike text) :
    shiftedText start text = start ++ text := by
  rw [shiftedText, plain.not_startsWith_at, if_neg Bool.false_ne_true]

theorem isRead_iff_of_not_template (plain : text.startsWith Endpoint.templateMark = false)
    {source : Extraction} :
    Endpoint.IsRead modifiers text source ↔
      ∃ expression, parse modifiers text = .ok expression ∧ source = .path expression := by
  constructor
  · rintro (⟨marked, -⟩ | ⟨-, read⟩)
    · simp [plain] at marked
    · exact ⟨_, read, rfl⟩
  · rintro ⟨expression, read, rfl⟩
    exact .path plain read

/-- An entry can be read exactly if it can be read behind a longer path. -/
theorem exists_isRead_shiftedText_iff (leads : Leads start keys) (shiftable : IsShiftable text) :
    (∃ source, Endpoint.IsRead modifiers (shiftedText start text) source) ↔
      ∃ source, Endpoint.IsRead modifiers text source := by
  rcases shiftable with literal | plain
  · rw [shiftedText_of_literal literal]
  · have unmarked := not_startsWith_of_prefix Endpoint.templateMark (by decide)
      (not_startsWith_at_append leads plain)
    simp only [shiftedText_of_isPathLike plain, isRead_iff_of_not_template unmarked,
      isRead_iff_of_not_template (not_isTemplate_of_isPathLike plain),
      parse_shifted_iff leads plain]
    constructor
    · rintro ⟨_, _, ⟨own, read, -⟩, -⟩
      exact ⟨_, own, read, rfl⟩
    · rintro ⟨_, own, read, -⟩
      exact ⟨_, _, ⟨own, read, rfl⟩, rfl⟩

/-- **An entry behind a longer path finds below the keys what the entry finds.** -/
theorem mappedValue_of_isRead
    (literal : ∀ modifier, modifiers.get? "literal" = some modifier → modifier = .literal)
    (leads : Leads start keys) (shiftable : IsShiftable text)
    {source moved : Extraction} (own : Endpoint.IsRead modifiers text source)
    (other : Endpoint.IsRead modifiers (shiftedText start text) moved) (engine : Engine)
    {outer item : Json} (below : outer.at? keys = some item) :
    engine.mappedValue outer moved = engine.mappedValue item source := by
  rcases shiftable with marked | plain
  · rw [shiftedText_of_literal marked] at other
    rw [isRead_iff_of_not_template (not_isTemplate_of_literal marked)] at own other
    obtain ⟨expression, read, rfl⟩ := own
    obtain ⟨_, again, rfl⟩ := other
    obtain rfl := Except.ok.inj (read.symm.trans again)
    obtain ⟨argument, modifier⟩ := modifier_of_literal literal marked read
    rw [Engine.mappedValue, Engine.mappedValue, evaluate_of_literal modifier]
  · have unmarked := not_startsWith_of_prefix Endpoint.templateMark (by decide)
      (not_startsWith_at_append leads plain)
    rw [shiftedText_of_isPathLike plain, isRead_iff_of_not_template unmarked] at other
    rw [isRead_iff_of_not_template (not_isTemplate_of_isPathLike plain)] at own
    obtain ⟨expression, read, rfl⟩ := own
    obtain ⟨_, again, rfl⟩ := other
    obtain ⟨_, same, rfl⟩ := (parse_shifted_iff leads plain).mp again
    obtain rfl := Except.ok.inj (read.symm.trans same)
    simp only [Engine.mappedValue, evaluate, follow?_of_at? below]

/-! ### Endpoints -/

/-- Rules that set the same field to the same value set it alike in every record. -/
theorem Engine.setMapped_congr {engine : Engine} {item other : Json} {rule moved : FieldRule}
    (field : rule.field = moved.field)
    (value : engine.mappedValue item rule.source = engine.mappedValue other moved.source)
    (record : List (String × Json)) :
    engine.setMapped item record rule = engine.setMapped other record moved := by
  simp only [Engine.setMapped, value, field]

/-- **Mappings keep their meaning behind a longer path.** An endpoint whose mapping is shifted below
keys compiles exactly if the endpoint does. The record that it makes of a value is then the record,
or the error, that the endpoint makes of what stands below these keys. A literal has to be one:
what else there is under its name could look at the value. -/
theorem shifted_rules_agree (modifiers : ModifierSet)
    (literal : ∀ modifier, modifiers.get? "literal" = some modifier → modifier = .literal)
    (definition : EndpointDefinition) (schema : Schema) {start : String} {keys : List String}
    (leads : Leads start keys) (shiftable : ∀ entry ∈ definition.mapping, IsShiftable entry.2) :
    let shifted : EndpointDefinition :=
      { definition with mapping := Untold.shiftedRules definition.mapping start }
    ((∃ endpoint, Endpoint.compile modifiers shifted schema = .ok endpoint) ↔
      ∃ endpoint, Endpoint.compile modifiers definition schema = .ok endpoint) ∧
    ∀ moved endpoint, Endpoint.compile modifiers shifted schema = .ok moved →
      Endpoint.compile modifiers definition schema = .ok endpoint →
      ∀ (engine : Engine) (outer item : Json), outer.at? keys = some item →
        engine.recordOf moved outer = engine.recordOf endpoint item := by
  intro shifted
  have mapping : shifted.mapping =
      definition.mapping.map fun entry => (entry.1, shiftedText start entry.2) := rfl
  constructor
  · rw [Endpoint.exists_compile_iff, Endpoint.exists_compile_iff, mapping, List.forall_mem_map]
    have entries : ∀ entry ∈ definition.mapping,
        ((∃ source, Endpoint.IsRead modifiers (shiftedText start entry.2) source) ↔
          ∃ source, Endpoint.IsRead modifiers entry.2 source) := fun entry mem =>
      exists_isRead_shiftedText_iff leads (shiftable entry mem)
    simp +contextual only [entries, shifted]
  · intro moved endpoint compiledToo compiled engine outer item below
    have rulesToo := Endpoint.rules_of_compile compiledToo
    rw [mapping, List.forall₂_map_left_iff] at rulesToo
    refine foldlM_congr (forall₂_of_common rulesToo (Endpoint.rules_of_compile compiled) ?_) []
    intro entry mem rule other first second
    obtain ⟨field, -, read⟩ := first
    obtain ⟨same, -, own⟩ := second
    exact Engine.setMapped_congr (Option.some.inj (field.symm.trans same))
      (mappedValue_of_isRead literal leads (shiftable entry mem) own read engine below)

/-- A modifier, a literal and a length, below a key with a dot and another one. -/
theorem shifted_rules_agree_below_two :
    let definition : EndpointDefinition := {
      mapping := [("category", "tags|categories"), ("locked", "@literal:\"yes\""), ("title", "#")] }
    let shifted : EndpointDefinition :=
      { definition with mapping := Untold.shiftedRules definition.mapping "a\\.b.podcast." }
    Leads "a\\.b.podcast." ["a.b", "podcast"] ∧
      (∀ entry ∈ definition.mapping, IsShiftable entry.2) ∧
      ∃ moved endpoint, Endpoint.compile .builtin shifted .channel = .ok moved ∧
        Endpoint.compile .builtin definition .channel = .ok endpoint ∧
        ∀ (engine : Engine) item,
          engine.recordOf moved (.object [("a.b", .object [("podcast", item)])]) =
            engine.recordOf endpoint item := by
  intro definition shifted
  have leads : Leads "a\\.b.podcast." ["a.b", "podcast"] := by
    have escaped : Spells ['a', '\\', '.', 'b'] "a.b".toList := by
      rw [show "a.b".toList = ['a', '.', 'b'] from by decide]
      exact .plain (by decide) (.escaped '.' (.plain (by decide) .nil))
    have plain : Spells "podcast".toList "podcast".toList := .of_plain (by simp)
    have first : "a\\.b.podcast.".toList.head? = some 'a' := by decide
    refine ⟨⟨_, .cons escaped (.cons plain .nil), by decide⟩, ?_, by simp⟩
    rw [first]
    simp [isBlank]
  have shiftable : ∀ entry ∈ definition.mapping, IsShiftable entry.2 := by
    simp only [definition, List.forall_mem_cons]
    refine ⟨.inr ⟨'t', "ags|categories".toList, by decide⟩, .inl ?_, .inr ⟨'#', [], by decide⟩,
      by simp⟩
    rw [String.startsWith_string_iff]
    decide
  have literal : ∀ modifier, ModifierSet.builtin.get? "literal" = some modifier →
      modifier = .literal := by
    rintro modifier found
    obtain ⟨name, rfl | rfl⟩ := ModifierSet.get?_builtin_eq_some_iff.mp found
    · rfl
    · exact absurd name (by decide)
  obtain ⟨same, agree⟩ :=
    shifted_rules_agree .builtin literal definition .channel leads shiftable
  have compiled : ∃ endpoint, Endpoint.compile .builtin definition .channel = .ok endpoint := by
    have found : (Endpoint.compile .builtin definition .channel).toOption.isSome = true := by
      decide +kernel
    obtain ⟨endpoint, own⟩ := Option.isSome_iff_exists.mp found
    exact ⟨endpoint, toOption_eq_some_iff.mp own⟩
  obtain ⟨moved, other⟩ := same.mpr compiled
  obtain ⟨endpoint, own⟩ := compiled
  exact ⟨leads, shiftable, moved, endpoint, other, own, fun engine item =>
    agree moved endpoint other own engine _ item rfl⟩

end CatalogFeeds
