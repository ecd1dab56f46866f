import CatalogFeeds.Proofs.Record.Assembly
import CatalogFeeds.Proofs.Text.Split
/-!
The fields of a schema.

A field goes by its name and by further names. No two fields of a schema share one, so the field
that a mapping is for does not depend on the order in which they are listed; and no field is on the
way to another, so setting one leaves the others alone.

* `lookup?_eq_some_iff` — looking a name up finds the field that goes by it.
* `apart_of_ne` — the paths of different fields lie beside each other.
-/

namespace CatalogFeeds

open CatalogFeeds.Text

/-- All names of a field. -/
def Field.names (field : Field) : List String :=
  field.name :: field.aliases

/-- A field goes by a name: blanks around it do not count, and neither does ASCII case. -/
def Field.goesBy (field : Field) (name : String) : Bool :=
  field.names.any (equalIgnoringCase · (trimmed name))

namespace Schema

variable {schema : Schema} {field other : Field}

/-- No two fields of a schema share a name. -/
theorem names_differ (mem : field ∈ schema.fields) (inside : other ∈ schema.fields)
    (ne : field ≠ other) : ∀ name ∈ field.names, ∀ called ∈ other.names,
      equalIgnoringCase name called = false := by
  have all : ∀ schema : Schema, ∀ field ∈ schema.fields, ∀ other ∈ schema.fields, field ≠ other →
      ∀ name ∈ field.names, ∀ called ∈ other.names, equalIgnoringCase name called = false := by
    intro schema
    cases schema <;> decide +kernel
  exact all schema field mem other inside ne

theorem eq_of_goesBy {name : String} (mem : field ∈ schema.fields) (inside : other ∈ schema.fields)
    (own : field.goesBy name = true) (too : other.goesBy name = true) : field = other := by
  by_contra ne
  obtain ⟨first, called, same⟩ := List.any_eq_true.mp own
  obtain ⟨second, calledToo, sameToo⟩ := List.any_eq_true.mp too
  have differ := names_differ mem inside ne first called second calledToo
  simp only [equalIgnoringCase, beq_iff_eq] at same sameToo
  simp [equalIgnoringCase, same, sameToo] at differ

/-- **Looking a name up** finds the one field that goes by it. -/
theorem lookup?_eq_some_iff {name : String} :
    schema.lookup? name = some field ↔ field ∈ schema.fields ∧ field.goesBy name = true := by
  have found : schema.lookup? name = schema.fields.find? (·.goesBy name) := by
    rfl
  rw [found]
  constructor
  · intro first
    have own := List.find?_some first
    exact ⟨List.mem_of_find?_eq_some first, own⟩
  · rintro ⟨mem, own⟩
    cases first : schema.fields.find? (·.goesBy name) with
    | none =>
      rw [List.find?_eq_none] at first
      exact absurd own (first field mem)
    | some other =>
      have too := List.find?_some first
      rw [eq_of_goesBy (List.mem_of_find?_eq_some first) mem too own]

/-- **The paths of different fields lie beside each other.** -/
theorem apart_of_ne (mem : field ∈ schema.fields) (inside : other ∈ schema.fields)
    (ne : field ≠ other) : Apart (fieldPath field.name) (fieldPath other.name) := by
  have all : ∀ schema : Schema, ∀ field ∈ schema.fields, ∀ other ∈ schema.fields, field ≠ other →
      Apart (fieldPath field.name) (fieldPath other.name) := by
    intro schema
    cases schema <;> decide +kernel
  exact all schema field mem other inside ne

/-- The fields that a mapping may set lie beside the provenance of a record, and each is below the
picture or the origin of a channel rather than in its place. -/
theorem path_of_free (mem : field ∈ schema.fields) (free : field.readOnly = false) :
    Apart ["_meta", "source"] (fieldPath field.name) ∧
      Apart ["_meta", "sourceUrl"] (fieldPath field.name) ∧
      fieldPath field.name ≠ ["image"] ∧ fieldPath field.name ≠ ["_meta"] := by
  have all : ∀ schema : Schema, ∀ field ∈ schema.fields, field.readOnly = false →
      Apart ["_meta", "source"] (fieldPath field.name) ∧
        Apart ["_meta", "sourceUrl"] (fieldPath field.name) ∧
        fieldPath field.name ≠ ["image"] ∧ fieldPath field.name ≠ ["_meta"] := by
    intro schema
    cases schema <;> decide +kernel
  exact all schema field mem free

end Schema

end CatalogFeeds
