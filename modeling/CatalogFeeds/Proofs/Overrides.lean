import CatalogFeeds.Proofs.Members
import Mathlib.Data.List.Nodup
import Mathlib.Data.List.Sort
/-!
Later items in the place of earlier ones.

Items with names are set one after the other, and an item takes the place of the one that had its
name. What is left is the last item of each name, wherever it stands.

* `Settles.foldl` — setting items one after the other leaves the last item of each name.
* `eq_of_names` — what is left is told by the order of the names and the item of each.
* `Settles.again` — setting once more what is left of items, behind some of them, leaves the same.
* `settles_insertAll` — entries in the order of their keys are set in this way.
* `ofList_of_isOrdered` — entries that are in this order stay as they are.
-/

namespace CatalogFeeds

variable {α : Type} {name : α → String} {items before after result : List α} {item : α}

/-- The last item of a name. -/
def lastNamed (name : α → String) (items : List α) (wanted : String) : Option α :=
  (items.filter (name · == wanted)).getLast?

/-- Under each name there is the last of some items, and nothing else. -/
def Settles (name : α → String) (items result : List α) : Prop :=
  ∀ wanted, result.filter (name · == wanted) = (lastNamed name items wanted).toList

/-- An item has been set: it is the only one of its name, and other names are as before. -/
structure Sets (name : α → String) (before : List α) (item : α) (after : List α) : Prop where
  own : after.filter (name · == name item) = [item]
  others : ∀ wanted, name item ≠ wanted →
    after.filter (name · == wanted) = before.filter (name · == wanted)

/-! ### The last item of a name -/

theorem lastNamed_append (name : α → String) (front back : List α) (wanted : String) :
    lastNamed name (front ++ back) wanted =
      (lastNamed name back wanted).or (lastNamed name front wanted) := by
  rw [lastNamed, List.filter_append, List.getLast?_append]
  rfl

theorem lastNamed_eq_none_iff {wanted : String} :
    lastNamed name items wanted = none ↔ ∀ item ∈ items, name item ≠ wanted := by
  simp [lastNamed]

theorem name_of_lastNamed {wanted : String} (h : lastNamed name items wanted = some item) :
    item ∈ items ∧ name item = wanted := by
  have mem := List.mem_of_getLast? h
  simpa using mem

/-! ### One item of each name -/

/-- Names are distinct if there is at most one item under each. -/
theorem nodup_of_filters (few : ∀ wanted, (items.filter (name · == wanted)).length ≤ 1) :
    (items.map name).Nodup := by
  induction items with
  | nil => exact List.nodup_nil
  | cons first rest ih =>
    rw [List.map_cons, List.nodup_cons]
    constructor
    · intro repeated
      obtain ⟨other, mem, same⟩ := List.mem_map.mp repeated
      have both := few (name first)
      rw [List.filter_cons_of_pos (by simp), List.length_cons] at both
      have found : other ∈ rest.filter (name · == name first) := by
        rw [List.mem_filter]
        exact ⟨mem, by simp [same]⟩
      have filled := List.length_pos_of_mem found
      omega
    · apply ih
      intro wanted
      have all := few wanted
      rw [List.filter_cons] at all
      split at all
      · rw [List.length_cons] at all
        omega
      · exact all

theorem filter_of_nodup (distinct : (items.map name).Nodup) (mem : item ∈ items) :
    items.filter (name · == name item) = [item] := by
  induction items with
  | nil => simp at mem
  | cons first rest ih =>
    rw [List.map_cons, List.nodup_cons] at distinct
    obtain ⟨new, distinct⟩ := distinct
    rcases List.mem_cons.mp mem with rfl | later
    · have none : rest.filter (name · == name item) = [] := by
        rw [List.filter_eq_nil_iff]
        intro other inside same
        exact new (List.mem_map.mpr ⟨other, inside, by simpa using same⟩)
      rw [List.filter_cons_of_pos (by simp), none]
    · have differ : name first ≠ name item := by
        intro same
        exact new (same ▸ List.mem_map_of_mem later)
      rw [List.filter_cons_of_neg (by simpa using differ), ih distinct later]

theorem Settles.nodup (h : Settles name items result) : (result.map name).Nodup := by
  apply nodup_of_filters
  intro wanted
  rw [h wanted]
  cases lastNamed name items wanted <;> simp

theorem Settles.mem_iff (h : Settles name items result) :
    item ∈ result ↔ lastNamed name items (name item) = some item := by
  have listed : item ∈ result ↔ item ∈ result.filter (name · == name item) := by
    simp [List.mem_filter]
  rw [listed, h, Option.mem_toList]

/-- Items with distinct names are what is left of them. -/
theorem settles_self (distinct : (items.map name).Nodup) : Settles name items items := by
  intro wanted
  cases last : lastNamed name items wanted with
  | none =>
    rw [lastNamed_eq_none_iff] at last
    rw [Option.toList_none, List.filter_eq_nil_iff]
    intro item mem
    simpa using last item mem
  | some item =>
    obtain ⟨mem, rfl⟩ := name_of_lastNamed last
    exact filter_of_nodup distinct mem

/-- **What is left** is told by the order of the names and the item of each. -/
theorem eq_of_names {other : List α} (names : result.map name = other.map name)
    (same : ∀ wanted, result.filter (name · == wanted) = other.filter (name · == wanted)) :
    result = other := by
  induction result generalizing other with
  | nil =>
    rw [List.map_nil, eq_comm, List.map_eq_nil_iff] at names
    exact names.symm
  | cons first rest ih =>
    cases other with
    | nil => simp at names
    | cons first' rest' =>
      obtain ⟨heads, tails⟩ := List.cons.inj names
      have own := same (name first)
      rw [List.filter_cons_of_pos (by simp), List.filter_cons_of_pos (by simp [heads])] at own
      obtain ⟨rfl, inner⟩ := List.cons.inj own
      rw [ih tails]
      intro wanted
      have all := same wanted
      rw [List.filter_cons, List.filter_cons] at all
      split at all
      · exact (List.cons.inj all).2
      · exact all

/-! ### Items one after another -/

/-- An item that is set is the last of its name. -/
theorem Settles.set (h : Settles name items before) (set : Sets name before item after) :
    Settles name (items ++ [item]) after := by
  intro wanted
  rw [lastNamed_append]
  by_cases own : name item = wanted
  · subst own
    rw [set.own]
    simp [lastNamed]
  · have none : lastNamed name [item] wanted = none := by
      rw [lastNamed_eq_none_iff]
      simpa using own
    rw [set.others wanted own, h wanted, none, Option.none_or]

/-- **Setting items one after the other** leaves the last item of each name. -/
theorem Settles.foldl {step : List α → α → List α} {fine : List α → Prop}
    (sets : ∀ before item, fine before →
      Sets name before item (step before item) ∧ fine (step before item))
    (h : Settles name items result) (start : fine result) (more : List α) :
    Settles name (items ++ more) (more.foldl step result) ∧ fine (more.foldl step result) := by
  induction more generalizing items result with
  | nil => simpa using ⟨h, start⟩
  | cons item more ih =>
    obtain ⟨set, next⟩ := sets result item start
    have later := ih (h.set set) next
    rwa [List.append_assoc, List.singleton_append] at later

/-- **Setting once more** what is left of items, behind some of them, leaves the same. -/
theorem Settles.again {base more : List α} (h : Settles name (base ++ more) result)
    (wanted : String) :
    lastNamed name (base ++ result) wanted = lastNamed name (base ++ more) wanted := by
  have left : lastNamed name result wanted = lastNamed name (base ++ more) wanted := by
    rw [lastNamed, h wanted]
    cases lastNamed name (base ++ more) wanted <;> rfl
  rw [lastNamed_append, left, lastNamed_append]
  cases lastNamed name more wanted with
  | some item => rfl
  | none => simp

/-! ### Entries in the order of their keys -/

section Entries

open Members (IsOrdered isOrdered_cons isOrdered_insert insertAll)

variable {entries : List (String × α)}

theorem sets_insert (ordered : IsOrdered entries) (entry : String × α) :
    Sets (·.1) entries entry (Members.insert entry.1 entry.2 entries) := by
  induction entries with
  | nil =>
    constructor
    · simp [Members.insert]
    · intro wanted other
      simp [Members.insert, other]
  | cons first rest ih =>
    obtain ⟨behind, later⟩ := isOrdered_cons.mp ordered
    -- No key behind the first one is equal to it or to a key in front of it.
    have absent : ∀ key, key ≤ first.1 → rest.filter (·.1 == key) = [] := by
      intro key front
      rw [List.filter_eq_nil_iff]
      intro other mem same
      have same : other.1 = key := by simpa using same
      exact String.not_lt.mpr (same ▸ front) (behind other mem)
    rw [Members.insert]
    by_cases same : first.1 = entry.1
    · rw [if_pos (by simpa using same)]
      constructor
      · rw [List.filter_cons_of_pos (by simp), absent entry.1 (same ▸ String.le_refl _)]
      · intro wanted other
        rw [List.filter_cons_of_neg (by simpa using other),
          List.filter_cons_of_neg (by simpa [same] using other)]
    rw [if_neg (by simpa using same)]
    by_cases front : entry.1 < first.1
    · rw [if_pos front]
      constructor
      · rw [List.filter_cons_of_pos (by simp), List.filter_cons_of_neg (by simpa using same),
          absent entry.1 (String.not_lt.mp (String.lt_asymm front))]
      · intro wanted other
        rw [List.filter_cons_of_neg (by simpa using other)]
    · rw [if_neg front]
      constructor
      · rw [List.filter_cons_of_neg (by simpa using same), (ih later).own]
      · intro wanted other
        rw [List.filter_cons, List.filter_cons, (ih later).others wanted other]

/-- **Entries that are set** behind others leave the last entry of each key, in the order of the
keys. -/
theorem settles_insertAll (ordered : IsOrdered entries) (more : List (String × α)) :
    Settles (·.1) (entries ++ more) (insertAll more entries) ∧
      IsOrdered (insertAll more entries) := by
  have distinct : (entries.map (·.1)).Nodup := List.Pairwise.nodup ordered
  apply Settles.foldl _ (settles_self distinct) ordered
  intro before entry fine
  exact ⟨sets_insert fine entry, isOrdered_insert fine⟩

/-- Entries in order are told by the entry of each key. -/
theorem eq_of_isOrdered {other : List (String × α)} (ordered : IsOrdered entries)
    (ordered' : IsOrdered other)
    (same : ∀ key, entries.filter (·.1 == key) = other.filter (·.1 == key)) : entries = other := by
  have keys : entries.map (·.1) = other.map (·.1) := by
    refine List.Pairwise.eq_of_mem_iff ordered ordered' fun key => ?_
    have there : ∀ list : List (String × α),
        key ∈ list.map (·.1) ↔ list.filter (·.1 == key) ≠ [] := by
      simp [List.filter_eq_nil_iff]
    rw [there, there, same]
  exact eq_of_names keys same

/-- What is left of entries alone is in order. -/
theorem settles_ofList (entries : List (String × α)) :
    Settles (·.1) entries (Members.ofList entries) ∧ IsOrdered (Members.ofList entries) := by
  have nothing : IsOrdered ([] : List (String × α)) := by simp [IsOrdered]
  exact settles_insertAll nothing entries

/-- Of entries with distinct keys all are left. -/
theorem mem_ofList (distinct : (entries.map (·.1)).Nodup) {entry : String × α} :
    entry ∈ Members.ofList entries ↔ entry ∈ entries := by
  rw [(settles_ofList entries).1.mem_iff, (settles_self distinct).mem_iff]

/-- Entries that are in order stay as they are. -/
theorem ofList_of_isOrdered (ordered : IsOrdered entries) : Members.ofList entries = entries := by
  have distinct : (entries.map (·.1)).Nodup := List.Pairwise.nodup ordered
  obtain ⟨settled, ordered'⟩ := settles_ofList entries
  exact eq_of_isOrdered ordered' ordered fun key =>
    (settled key).trans (settles_self distinct key).symm

end Entries

end CatalogFeeds
