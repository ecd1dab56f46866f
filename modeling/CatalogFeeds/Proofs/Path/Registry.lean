import CatalogFeeds.Path.Selector
import CatalogFeeds.Proofs.Members
import Mathlib.Data.List.Induction
/-!
Modifiers under their names.

A set has at most one modifier of a name: the one that was registered last. Which modifiers there
are beside the built-in ones is open, and so is what they do. What the rest relies on is what a
modifier promises: that expressions can call it by its name, and that it fails on nothing but
values of the wrong shape.

* `get?_register_self`, `get?_register_of_ne` — what registering a modifier does to a name.
* `name_of_get?` — a name leads to a modifier that has it.
* `names_ordered`, `mem_names_iff` — the names of a set, in order.
* `IsCallable`, `ReportsMalformed` — the two promises, which the built-in modifiers keep.
-/

namespace CatalogFeeds

open CatalogFeeds.Text

/-! ### Registering and looking up -/

namespace ModifierSet

variable {modifiers : ModifierSet} {modifier : Modifier} {name : String}

theorem table_register (modifiers : ModifierSet) (modifier : Modifier) :
    (modifiers.register modifier).table =
      Members.insert modifier.name modifier modifiers.table := by
  simp [table, register, Members.ofList, Members.insertAll]

theorem get?_register_self (modifiers : ModifierSet) (modifier : Modifier) :
    (modifiers.register modifier).get? modifier.name = some modifier := by
  rw [get?, table_register, Members.get?_insert_self]

theorem get?_register_of_ne (ne : name ≠ modifier.name) (modifiers : ModifierSet) :
    (modifiers.register modifier).get? name = modifiers.get? name := by
  rw [get?, table_register, Members.get?_insert_of_ne ne, get?]

@[simp] theorem get?_empty (name : String) : empty.get? name = none := rfl

/-- Every set is made by registering modifiers one after the other. -/
theorem induction {motive : ModifierSet → Prop} (none : motive empty)
    (more : ∀ modifiers modifier, motive modifiers → motive (modifiers.register modifier))
    (modifiers : ModifierSet) : motive modifiers := by
  obtain ⟨members⟩ := modifiers
  induction members using List.reverseRecOn with
  | nil => exact none
  | append_singleton members modifier ih => exact more ⟨members⟩ modifier ih

/-- A name leads to a modifier that has it. -/
theorem name_of_get? (found : modifiers.get? name = some modifier) : modifier.name = name := by
  induction modifiers using induction with
  | none => simp at found
  | more modifiers last ih =>
    by_cases own : name = last.name
    · subst own
      rw [get?_register_self] at found
      rw [Option.some.inj found]
    · exact ih ((get?_register_of_ne own modifiers).symm.trans found)

/-- The names of a set are distinct and in order. -/
theorem names_ordered (modifiers : ModifierSet) : modifiers.names.Pairwise (· < ·) := by
  induction modifiers using induction with
  | none => exact .nil
  | more modifiers modifier ih =>
    rw [names, table_register]
    exact Members.isOrdered_insert ih

theorem mem_names_iff : name ∈ modifiers.names ↔ modifiers.contains name = true :=
  Members.mem_keys_iff

/-- What the set of the built-in modifiers has. -/
theorem get?_builtin_eq_some_iff :
    builtin.get? name = some modifier ↔
      name = modifier.name ∧ (modifier = .literal ∨ modifier = .categories) := by
  constructor
  · intro found
    refine ⟨(name_of_get? found).symm, ?_⟩
    rw [builtin] at found
    by_cases last : name = Modifier.categories.name
    · subst last
      rw [get?_register_self] at found
      exact .inr (Option.some.inj found).symm
    rw [get?_register_of_ne last] at found
    by_cases first : name = Modifier.literal.name
    · subst first
      rw [get?_register_self] at found
      exact .inl (Option.some.inj found).symm
    · rw [get?_register_of_ne first] at found
      simp at found
  · rintro ⟨rfl, rfl | rfl⟩
    · rw [builtin, get?_register_of_ne (by decide), get?_register_self]
    · rw [builtin, get?_register_self]

end ModifierSet

/-! ### What a modifier promises -/

namespace Modifier

/-- Expressions can call a modifier by its name. A name stands behind the bar of an expression,
where an at sign is dropped, the first colon ends it, and blanks around it do not count: so it is
not empty, has neither a blank at its ends nor a colon in it, and does not start with an at sign. -/
structure IsCallable (modifier : Modifier) : Prop where
  filled : modifier.name ≠ ""
  trimmed : trim modifier.name.toList = modifier.name.toList
  plain : ':' ∉ modifier.name.toList
  unsigned : modifier.name.toList.head? ≠ some '@'

instance (modifier : Modifier) : Decidable modifier.IsCallable :=
  decidable_of_iff
    (modifier.name ≠ "" ∧ trim modifier.name.toList = modifier.name.toList ∧
      ':' ∉ modifier.name.toList ∧ modifier.name.toList.head? ≠ some '@')
    ⟨fun ⟨filled, trimmed, plain, unsigned⟩ => ⟨filled, trimmed, plain, unsigned⟩,
      fun h => ⟨h.filled, h.trimmed, h.plain, h.unsigned⟩⟩

/-- A modifier fails only where it cannot take what was found, and says so under its own name. -/
def ReportsMalformed (modifier : Modifier) : Prop :=
  ∀ input argument error, modifier.apply input argument = .error error →
    ∃ fragment reason, error = .malformedInput modifier.name fragment reason

theorem isCallable_literal : literal.IsCallable := by decide

theorem reportsMalformed_literal : literal.ReportsMalformed := by
  intro input argument error failed
  cases failed

theorem reportsMalformed_categories : categories.ReportsMalformed := by
  intro input argument error failed
  simp only [categories] at failed
  split at failed
  · cases failed
  · split at failed <;> cases failed
    exact ⟨_, _, rfl⟩

end Modifier

/-- All modifiers of a set fail as they promise. -/
def ModifierSet.ReportsMalformed (modifiers : ModifierSet) : Prop :=
  ∀ name modifier, modifiers.get? name = some modifier → modifier.ReportsMalformed

theorem ModifierSet.reportsMalformed_builtin : builtin.ReportsMalformed := by
  intro name modifier found
  obtain ⟨-, rfl | rfl⟩ := get?_builtin_eq_some_iff.mp found
  · exact Modifier.reportsMalformed_literal
  · exact Modifier.reportsMalformed_categories

end CatalogFeeds
