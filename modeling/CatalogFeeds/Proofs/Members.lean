import CatalogFeeds.Members
/-!
Looking up what has been set.

`Members.get?` is the only view of a list of entries, and `Members.insert` changes it at one key:
the key that is set gives the value (`get?_insert_self`), every other key gives what it gave
before (`get?_insert_of_ne`). The later of two values for one key replaces the other
(`insert_insert_self`), and values for two keys can be set in either order (`insert_comm`). None of
these asks for the keys to be distinct or in order. Of many keys set one after the other the last
counts (`get?_insertAll`). Setting a key keeps the entries in the order of their keys
(`isOrdered_insert`).
-/

namespace CatalogFeeds.Members

variable {α : Type} {key other : String}

theorem get?_insert_self (key : String) (value : α) (entries : List (String × α)) :
    get? key (insert key value entries) = some value := by
  induction entries with
  | nil => simp [insert, get?]
  | cons entry rest ih =>
    obtain ⟨k, v⟩ := entry
    by_cases hk : k = key
    · simp [insert, get?, hk]
    · by_cases hlt : key < k
      · simp [insert, get?, hk, hlt]
      · simp [insert, get?, hk, hlt, ih]

theorem get?_insert_of_ne (h : other ≠ key) (value : α) (entries : List (String × α)) :
    get? other (insert key value entries) = get? other entries := by
  induction entries with
  | nil => simp [insert, get?, Ne.symm h]
  | cons entry rest ih =>
    obtain ⟨k, v⟩ := entry
    by_cases hk : k = key
    · simp [insert, get?, hk, Ne.symm h]
    · by_cases hlt : key < k
      · simp [insert, get?, hk, hlt, Ne.symm h]
      · simp [insert, get?, hk, hlt, ih]

/-- The later of two values for one key replaces the other. -/
theorem insert_insert_self (key : String) (value later : α) (entries : List (String × α)) :
    insert key later (insert key value entries) = insert key later entries := by
  induction entries with
  | nil => simp [insert]
  | cons entry rest ih =>
    obtain ⟨k, v⟩ := entry
    by_cases hk : k = key
    · simp [insert, hk]
    · by_cases hlt : key < k
      · simp [insert, hk, hlt]
      · simp [insert, hk, hlt, ih]

theorem insert_comm_of_lt (before : key < other) (value otherValue : α)
    (entries : List (String × α)) :
    insert other otherValue (insert key value entries) =
      insert key value (insert other otherValue entries) := by
  have ne : key ≠ other := String.ne_of_lt before
  have notAfter : ¬ other < key := String.lt_asymm before
  induction entries with
  | nil => simp [insert, ne, ne.symm, before, notAfter]
  | cons entry rest ih =>
    obtain ⟨k, v⟩ := entry
    by_cases hk : k = key
    · simp [insert, hk, ne, notAfter]
    by_cases ho : k = other
    · simp [insert, ho, ne, ne.symm, before, notAfter]
    by_cases hlt : key < k
    · by_cases hlt' : other < k
      · simp [insert, hk, ho, hlt, hlt', ne, ne.symm, before, notAfter]
      · simp [insert, hk, ho, hlt, hlt', ne, notAfter]
    · have behind : ¬ other < k := fun front => hlt (String.lt_trans before front)
      simp [insert, hk, ho, hlt, behind, ih]

/-- Values for two keys can be set in either order. -/
theorem insert_comm (ne : key ≠ other) (value otherValue : α) (entries : List (String × α)) :
    insert other otherValue (insert key value entries) =
      insert key value (insert other otherValue entries) := by
  by_cases before : key < other
  · exact insert_comm_of_lt before value otherValue entries
  · have after : other < key := Decidable.byContradiction fun not =>
      ne (String.le_antisymm (String.not_lt.mp not) (String.not_lt.mp before))
    exact (insert_comm_of_lt after otherValue value entries).symm

/-- Of several entries with a key the last one gives the value. -/
theorem get?_insertAll (key : String) (entries members : List (String × α)) :
    get? key (insertAll entries members) = (entries.reverse.lookup key).or (get? key members) := by
  induction entries generalizing members with
  | nil => rfl
  | cons entry entries ih =>
    obtain ⟨k, v⟩ := entry
    have first : insertAll ((k, v) :: entries) members =
        insertAll entries (insert k v members) := rfl
    rw [first, ih, List.reverse_cons, List.lookup_append, Option.or_assoc]
    congr 1
    by_cases same : key = k
    · simp [same, get?_insert_self]
    · rw [get?_insert_of_ne same, List.lookup_cons, beq_false_of_ne same]
      rfl

theorem get?_ofList (key : String) (entries : List (String × α)) :
    get? key (ofList entries) = entries.reverse.lookup key := by
  rw [ofList, get?_insertAll]
  exact Option.or_none

theorem get?_of_mem {entries : List (String × α)} {value : α}
    (distinct : (entries.map (·.1)).Nodup) (mem : (key, value) ∈ entries) :
    get? key entries = some value := by
  induction entries with
  | nil => exact absurd mem List.not_mem_nil
  | cons entry rest ih =>
    obtain ⟨k, v⟩ := entry
    obtain ⟨notBelow, later⟩ := List.nodup_cons.mp distinct
    rcases List.mem_cons.mp mem with same | inside
    · obtain ⟨rfl, rfl⟩ := Prod.mk.inj same
      simp [get?]
    · have other : k ≠ key := by
        rintro rfl
        exact notBelow (List.mem_map.mpr ⟨(k, value), inside, rfl⟩)
      simp [get?, other, ih later inside]

/-- The keys are those that have a value. -/
theorem mem_keys_iff {entries : List (String × α)} :
    key ∈ entries.map (·.1) ↔ (get? key entries).isSome := by
  induction entries with
  | nil => simp [get?]
  | cons entry rest ih =>
    obtain ⟨k, v⟩ := entry
    by_cases hk : k = key
    · simp [get?, hk]
    · rw [List.map_cons, List.mem_cons, ih]
      simp [get?, hk, Ne.symm hk]

theorem lookup_map {β : Type} (f : α → β) (key : String) (entries : List (String × α)) :
    (entries.map fun (name, value) => (name, f value)).lookup key = (entries.lookup key).map f := by
  induction entries with
  | nil => rfl
  | cons entry entries ih =>
    obtain ⟨name, value⟩ := entry
    by_cases same : key = name
    · simp [same]
    · rw [List.map_cons, List.lookup_cons, List.lookup_cons, ih, beq_false_of_ne same]

/-! ### Order -/

/-- The keys of entries are distinct and in order. -/
def IsOrdered (entries : List (String × α)) : Prop :=
  (entries.map (·.1)).Pairwise (· < ·)

instance (entries : List (String × α)) : Decidable (IsOrdered entries) :=
  inferInstanceAs (Decidable (List.Pairwise _ _))

variable {value : α} {entries : List (String × α)}

theorem isOrdered_cons {entry : String × α} :
    IsOrdered (entry :: entries) ↔ (∀ other ∈ entries, entry.1 < other.1) ∧ IsOrdered entries := by
  simp [IsOrdered]

theorem mem_of_mem_insert {entry : String × α} (mem : entry ∈ insert key value entries) :
    entry = (key, value) ∨ entry ∈ entries := by
  induction entries with
  | nil => simpa [insert] using mem
  | cons first rest ih =>
    rw [insert] at mem
    split at mem
    · exact (List.mem_cons.mp mem).imp_right (List.mem_cons_of_mem _)
    · split at mem
      · exact List.mem_cons.mp mem
      · rcases List.mem_cons.mp mem with rfl | later
        · exact .inr List.mem_cons_self
        · exact (ih later).imp_right (List.mem_cons_of_mem _)

theorem mem_of_mem_insertAll {entry : String × α} {more : List (String × α)}
    (mem : entry ∈ insertAll more entries) : entry ∈ more ∨ entry ∈ entries := by
  induction more generalizing entries with
  | nil => exact .inr mem
  | cons first more ih =>
    rcases ih mem with later | here
    · exact .inl (List.mem_cons_of_mem first later)
    · rcases mem_of_mem_insert here with rfl | inside
      · exact .inl List.mem_cons_self
      · exact .inr inside

/-- Setting a key keeps the order of the keys. -/
theorem isOrdered_insert (ordered : IsOrdered entries) : IsOrdered (insert key value entries) := by
  induction entries with
  | nil => simp [insert, IsOrdered]
  | cons first rest ih =>
    obtain ⟨k, v⟩ := first
    obtain ⟨behind, later⟩ := isOrdered_cons.mp ordered
    rw [insert]
    by_cases same : k = key
    · subst same
      have kept : IsOrdered ((k, value) :: rest) := isOrdered_cons.mpr ⟨behind, later⟩
      simpa using kept
    by_cases front : key < k
    · rw [if_neg (by simpa using same), if_pos front, isOrdered_cons]
      refine ⟨fun other mem => ?_, ordered⟩
      rcases List.mem_cons.mp mem with rfl | inside
      · exact front
      · exact String.lt_trans front (behind other inside)
    · have before : k < key := Decidable.byContradiction fun not =>
        same (String.le_antisymm (String.not_lt.mp front) (String.not_lt.mp not))
      rw [if_neg (by simpa using same), if_neg front, isOrdered_cons]
      refine ⟨fun other mem => ?_, ih later⟩
      rcases mem_of_mem_insert mem with rfl | inside
      · exact before
      · exact behind other inside

end CatalogFeeds.Members
