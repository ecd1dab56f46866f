import CatalogFeeds.Proofs.Path.Composition
import CatalogFeeds.Proofs.Text.Digits
/-!
Addressing the values of a document.

A document is walked by steps: a key of an object, or an index into an array. The expression of a
walk spells every key with backslashes and every index in decimal, and it leads where the walk does.

* `follow?_of_walk` — the segments of a walk are followed as the walk goes.
* `parse_expression` — the expression of a walk is read as its segments.
* `values_addressable` — so every value that is not null can be addressed, and a walk that comes to
  an end on its way finds nothing.
-/

namespace CatalogFeeds

open CatalogFeeds.Text CatalogFeeds.Selector

/-- A step from a value to one that it holds. -/
inductive Step where
  | key (name : String)
  | index (position : Nat)
  deriving DecidableEq, Repr

namespace Step

/-- The segment that a step is in a path. -/
def segment : Step → String
  | key name => name
  | index position => String.ofList (digits position)

/-- A step as it is written: a key with a backslash in front of every character, an index in
decimal. -/
def written : Step → List Char
  | key name => segmentText name
  | index position => digits position

/-- The expression of steps: dots between them. -/
def expression (steps : List Step) : String :=
  String.ofList (dotted (steps.map written))

/-- What an expression can tell of steps. No key is empty, and a key does not end the expression
with a blank, because blanks at the end do not count. -/
structure AreWritable (steps : List Step) : Prop where
  filled : ∀ name, key name ∈ steps → name ≠ ""
  last : ∀ name, steps.getLast? = some (key name) → endsBlank name.toList = false

end Step

namespace Json

variable {document value : Json} {steps : List Step} {step : Step}

/-- The value that a step leads to. -/
def step? : Json → Step → Option Json
  | object members, .key name => Members.get? name members
  | array items, .index position => items[position]?
  | _, _ => none

/-- The value that steps lead to. -/
def walk? (document : Json) (steps : List Step) : Option Json :=
  steps.foldlM step? document

/-- A step leads nowhere: an absent key of an object, an index out of the range of an array, or
anything below a value that holds no others. -/
inductive Blocks : Json → Step → Prop
  | absent {members : List (String × Json)} {step : Step} :
    Members.get? step.segment members = none → Blocks (object members) step
  | outOfRange {items : List Json} {position : Nat} :
    items.length ≤ position → Blocks (array items) (.index position)
  | null {step : Step} : Blocks null step
  | bool {b : Bool} {step : Step} : Blocks (bool b) step
  | number {n : JsonNumber} {step : Step} : Blocks (number n) step
  | string {s : String} {step : Step} : Blocks (string s) step

/-! ### Following a walk -/

theorem walk?_cons (document : Json) (step : Step) (rest : List Step) :
    document.walk? (step :: rest) = (document.step? step).bind (·.walk? rest) :=
  rfl

theorem index_segment_ne (position : Nat) : (Step.index position).segment ≠ "#" := by
  intro same
  have sign : '#' ∈ digits position := by
    rw [← String.toList_ofList (l := digits position)]
    exact (congrArg String.toList same).symm ▸ by decide
  exact absurd (isDigit_of_mem_digits sign) (by decide)

/-- An index is followed to the item at its position. -/
theorem follow?_index (items : List Json) (position : Nat) (rest : List String) :
    (array items).follow? ((Step.index position).segment :: rest) =
      items[position]?.bind (·.follow? rest) := by
  rw [follow?_array_cons items (index_segment_ne position), Step.segment, String.toList_ofList,
    natural?_digits]
  rfl

theorem follow?_of_step (found : document.step? step = some value) (rest : List String) :
    document.follow? (step.segment :: rest) = value.follow? rest := by
  cases document with
  | object members =>
    cases step with
    | key name =>
      have own : Members.get? name members = some value := found
      simp [Step.segment, own]
    | index position => simp [step?] at found
  | array items =>
    cases step with
    | key name => simp [step?] at found
    | index position =>
      have own : items[position]? = some value := found
      rw [follow?_index, own, Option.bind_some]
  | _ => simp [step?] at found

/-- **The segments of a walk are followed as the walk goes.** -/
theorem follow?_of_walk (found : document.walk? steps = some value) (rest : List String) :
    document.follow? (steps.map (·.segment) ++ rest) = value.follow? rest := by
  induction steps generalizing document with
  | nil =>
    obtain rfl := Option.some.inj found
    rfl
  | cons step steps ih =>
    rw [walk?_cons, Option.bind_eq_some_iff] at found
    obtain ⟨next, first, later⟩ := found
    rw [List.map_cons, List.cons_append, follow?_of_step first, ih later]

theorem follow?_of_blocks (blocks : document.Blocks step) (rest : List String) :
    document.follow? (step.segment :: rest) = none := by
  cases blocks with
  | absent none => simp [none]
  | outOfRange beyond => simp [follow?_index, beyond]
  | _ => simp [follow?]

end Json

/-! ### Expressions of walks -/

namespace Step

variable {steps : List Step} {modifiers : ModifierSet}

theorem spells_written (step : Step) : Spells step.written step.segment.toList := by
  cases step with
  | key name => exact spells_segmentText name
  | index position =>
    rw [written, segment, String.toList_ofList]
    refine .of_plain fun c mem sign => ?_
    have digit := isDigit_of_mem_digits mem
    simp only [List.mem_cons, List.not_mem_nil, or_false] at sign
    rcases sign with rfl | rfl | rfl <;> exact absurd digit (by decide)

theorem spell_written (steps : List Step) :
    List.Forall₂ Spells (steps.map written) ((steps.map segment).map String.toList) := by
  rw [List.map_map, List.forall₂_map_left_iff, List.forall₂_map_right_iff]
  exact List.forall₂_same.mpr fun step _ => spells_written step

theorem segment_ne_empty (writable : AreWritable steps) : ∀ name ∈ steps.map segment, name ≠ "" := by
  intro name mem
  obtain ⟨step, inside, rfl⟩ := List.mem_map.mp mem
  cases step with
  | key name => exact writable.filled name inside
  | index position =>
    rw [segment, ne_eq, ← String.toList_eq_nil_iff, String.toList_ofList]
    exact digits_ne_nil position

theorem written_ne_nil (writable : AreWritable steps) : ∀ text ∈ steps.map written, text ≠ [] := by
  refine forall_ne_nil_of_spells (spell_written steps) fun cs mem => ?_
  obtain ⟨name, inside, rfl⟩ := List.mem_map.mp mem
  exact mt String.toList_eq_nil_iff.mp (segment_ne_empty writable name inside)

/-- The expression of a step starts with a backslash or a digit. -/
theorem head?_written (step : Step) :
    ∀ c ∈ step.written.head?, c ≠ '@' ∧ isBlank c = false := by
  intro c first
  cases step with
  | key name =>
    by_cases empty : name = ""
    · simp [written, segmentText, empty] at first
    · have start := head?_segmentText empty []
      rw [List.append_nil] at start
      obtain rfl := Option.some.inj (start.symm.trans first)
      decide
  | index position =>
    have digit := isDigit_of_mem_digits (List.mem_of_head? first)
    exact ⟨ne_of_isDigit digit (by decide), not_isBlank_of_isDigit digit⟩

theorem endsBlank_written (writable : AreWritable steps) :
    ∀ text ∈ (steps.map written).getLast?, endsBlank text = false := by
  intro text last
  rw [List.getLast?_map, Option.mem_def, Option.map_eq_some_iff] at last
  obtain ⟨step, own, rfl⟩ := last
  cases step with
  | key name => exact (endsBlank_segmentText name).trans (writable.last name own)
  | index position =>
    have digit := isDigit_of_mem_digits (List.getLast_mem (digits_ne_nil position))
    simp [written, endsBlank, List.getLast?_eq_some_getLast (digits_ne_nil position),
      not_isBlank_of_isDigit digit]

/-- **The expression of steps is read as their segments.** -/
theorem parse_expression (writable : AreWritable steps) :
    parse modifiers (expression steps) = .ok ⟨expression steps, steps.map segment, none⟩ := by
  have first : ∀ c ∈ (dotted (steps.map written)).head?, c ≠ '@' ∧ isBlank c = false := by
    cases steps with
    | nil => simp [dotted]
    | cons step rest =>
      rw [List.map_cons, head?_dotted (written_ne_nil writable _ List.mem_cons_self)]
      exact head?_written step
  have last := endsBlank_dotted (written_ne_nil writable) (endsBlank_written writable)
  have read := splitCall_trim_of_unbarred (unbarred_dotted (spell_written steps)) first last
  have segments := segments?_dotted (spell_written steps) (segment_ne_empty writable)
    (expression steps)
  rw [parse_eq_ok_iff, expression, String.toList_ofList, read]
  exact ⟨rfl, segments, .none⟩

/-- **Every value of a document is addressable.** The expression of steps that lead to a value other
than null finds exactly that value. Where the steps lead to null, or come to one that leads nowhere,
nothing is found, and that is no error. -/
theorem values_addressable (modifiers : ModifierSet) (document : Json) {steps : List Step}
    (writable : AreWritable steps) :
    (∀ value, document.walk? steps = some value → value.isNull = false →
      evaluateText modifiers (expression steps) document = .ok (some value)) ∧
    (document.walk? steps = some .null →
      evaluateText modifiers (expression steps) document = .ok none) ∧
    ∀ front step rest value, steps = front ++ step :: rest → document.walk? front = some value →
      value.Blocks step → evaluateText modifiers (expression steps) document = .ok none := by
  have read : evaluateText modifiers (expression steps) document =
      .ok ((document.follow? (steps.map segment)).bind Json.present?) := by
    rw [evaluateText, parse_expression writable]
    rfl
  have followed {value : Json} (found : document.walk? steps = some value) :
      document.follow? (steps.map segment) = some value := by
    simpa using Json.follow?_of_walk found []
  refine ⟨fun value found present => ?_, fun found => ?_, ?_⟩
  · simp [read, followed found, Json.present?, present]
  · rw [read, followed found]
    rfl
  · rintro front step rest value rfl found blocks
    rw [read, List.map_append, List.map_cons, Json.follow?_of_walk found,
      Json.follow?_of_blocks blocks]
    rfl

/-- A key that holds every character with a meaning in expressions, below an index; and an index
that is out of range in front of further steps. -/
theorem values_addressable_marks :
    let marked := ".|\\@#:7 x"
    let document : Json := .object [("@this", .array [.null, .object [(marked, .bool true)]])]
    let steps : List Step := [.key "@this", .index 1, .key marked]
    let beyond : List Step := [.key "@this", .index 2, .key marked]
    AreWritable steps ∧ document.walk? steps = some (.bool true) ∧
      evaluateText .builtin (expression steps) document = .ok (some (.bool true)) ∧
      AreWritable beyond ∧ evaluateText .builtin (expression beyond) document = .ok none := by
  intro marked document steps beyond
  have writable : AreWritable steps := by
    refine ⟨by simp [steps, marked], ?_⟩
    rintro name ⟨⟩
    decide
  have writableToo : AreWritable beyond := by
    refine ⟨by simp [beyond, marked], ?_⟩
    rintro name ⟨⟩
    decide
  have found : document.walk? steps = some (.bool true) := rfl
  have front : document.walk? [.key "@this"] =
      some (.array [.null, .object [(marked, .bool true)]]) := rfl
  exact ⟨writable, found, (values_addressable .builtin document writable).1 _ found rfl,
    writableToo, (values_addressable .builtin document writableToo).2.2 [.key "@this"] (.index 2)
      [.key marked] _ rfl front (.outOfRange (by decide))⟩

end Step

end CatalogFeeds
