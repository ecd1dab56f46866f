import CatalogFeeds.Proofs.Json.Shape
import CatalogFeeds.Proofs.Record.Assembly
/-!
Records as their parts.

A record is read part by part: a field sets one part of it and leaves the others alone. A record
that stands in a field of another one lends it its parts, each at a path of two keys.

* `IsMadeOf.holds` — what a record that has been read holds in a part is decided by the member of
  that part alone.
* `IsMadeOf.holds_below` — the same of a part of a record inside another, for what is at its path.
* `IsMadeOf.readMembers_eq_ok` — members that hold each part of a record are read as this record.
-/

namespace CatalogFeeds

open Members

/-- A part of a record: the field that sets it, what the value of that field is read as, and where
it stands in the record. -/
structure Part (α : Type) where
  {Value : Type}
  field : String
  read : Json → Except ShapeError Value
  view : α → Value
  put : α → Value → α
  view_put : ∀ record value, view (put record value) = value := by intros; rfl

/-- A place in a record that is for the value at a path of keys. -/
structure Slot (α : Type) where
  {Value : Type}
  path : List String
  read : Json → Except ShapeError Value
  view : α → Value

variable {α β : Type}

/-- The place of a part of the record itself. -/
def Part.slot (part : Part α) : Slot α :=
  ⟨[part.field], part.read, part.view⟩

/-- The place of a part of a record that stands in a field of another. -/
def Part.slotBelow (part : Part β) (field : String) (view : α → β) : Slot α :=
  ⟨[field, part.field], part.read, fun record => part.view (view record)⟩

/-- A slot holds what a value is read as, and without a value it holds what a blank record has
there. -/
def Slot.Holds (slot : Slot α) (blank : α) (value : Option Json) (record : α) : Prop :=
  match value with
  | some value => slot.read value = .ok (slot.view record)
  | none => slot.view record = slot.view blank

namespace Slot

variable {slot : Slot α} {blank record : α} {value : Option Json}

theorem Holds.of_some (held : slot.Holds blank value record) {found : Json}
    (own : value = some found) : slot.read found = .ok (slot.view record) := by
  subst own
  exact held

theorem Holds.of_none (held : slot.Holds blank value record) (absent : value = none) :
    slot.view record = slot.view blank := by
  subst absent
  exact held

end Slot

namespace RecordShape

variable {shape : RecordShape α} {parts : List (Part α)} {part : Part α}

/-- A record is read in parts: a field sets its own part, and no other name sets anything. -/
structure IsMadeOf (shape : RecordShape α) (parts : List (Part α)) : Prop where
  plain : shape.aliases = []
  fields : shape.fields = parts.map (·.field)
  sets : ∀ part ∈ parts, ∀ record value, shape.set record part.field value =
    (do return part.put record (← part.read value))
  passes : ∀ field ∉ shape.fields, ∀ record value, shape.set record field value = .ok record
  keeps : ∀ part ∈ parts, ∀ other ∈ parts, other.field ≠ part.field → ∀ record value,
    part.view (other.put record value) = part.view record

theorem IsMadeOf.shows (made : shape.IsMadeOf parts) (mem : part ∈ parts) :
    shape.Shows part.field part.view := by
  refine ⟨made.plain, ?_⟩
  intro record other value after ne set
  by_cases known : other ∈ shape.fields
  · rw [made.fields] at known
    obtain ⟨own, inside, rfl⟩ := List.mem_map.mp known
    rw [made.sets own inside] at set
    exact view_of_set set fun _ => made.keeps part mem own inside ne record _
  · rw [made.passes other known] at set
    rw [← Except.ok.inj set]

/-- **What a record holds in a part** is what its member is read as. -/
theorem IsMadeOf.holds (made : shape.IsMadeOf parts) {members : List (String × Json)} {record : α}
    (h : shape.readMembers members = .ok record) (mem : part ∈ parts) :
    part.slot.Holds shape.blank (get? part.field members) record := by
  cases found : get? part.field members with
  | none => exact readMembers_view_of_none (made.shows mem) found h
  | some value =>
    have known : part.field ∈ shape.fields := by
      rw [made.fields]
      exact List.mem_map_of_mem mem
    obtain ⟨before, after, set, same⟩ := readMembers_view (made.shows mem) known found h
    rw [made.sets part mem] at set
    obtain ⟨own, read, set⟩ := bind_eq_ok_iff.mp set
    have shown : part.view record = own := by
      rw [same, ← Except.ok.inj set, part.view_put]
    rw [← shown] at read
    exact read

/-- **What a record holds in a part of a record inside it** is what the value at the path of that
part is read as, if what stands inside is an object. -/
theorem IsMadeOf.holds_below {inner : RecordShape β} {inners : List (Part β)}
    (made : inner.IsMadeOf inners) {field : String} {view : α → β} {blank record : α}
    {members : List (String × Json)} (empty : view blank = inner.blank)
    (node : IsNode field members)
    (holds : (⟨[field], inner.read, view⟩ : Slot α).Holds blank (get? field members) record)
    {part : Part β} (mem : part ∈ inners) :
    (part.slotBelow field view).Holds blank ((Json.object members).at? [field, part.field])
      record := by
  cases found : get? field members with
  | none =>
    rw [at?_object_cons, found]
    exact congrArg part.view (holds.of_none found)
  | some value =>
    obtain ⟨below, rfl⟩ := node value found
    have own := made.holds (holds.of_some found) mem
    rw [at?_object_cons, found, Option.bind_some, at?_object_single]
    cases deeper : get? part.field below with
    | none => exact (own.of_none deeper).trans (congrArg part.view empty.symm)
    | some value => exact own.of_some deeper

/-! ### Records that can be read -/

/-- Members of which each can be read can be read together. -/
theorem IsMadeOf.exists_setMembers (made : shape.IsMadeOf parts) {members : List (String × Json)}
    (distinct : (members.map (·.1)).Nodup)
    (fine : ∀ part ∈ parts, ∀ value, (part.field, value) ∈ members →
      ∃ own, part.read value = .ok own)
    {seen : List String} (new : ∀ member ∈ members, member.1 ∉ seen) (record : α) :
    ∃ result, shape.setMembers record seen members = .ok result := by
  induction members generalizing seen record with
  | nil => exact ⟨record, rfl⟩
  | cons member rest ih =>
    obtain ⟨key, value⟩ := member
    obtain ⟨notBelow, later⟩ := List.nodup_cons.mp distinct
    obtain ⟨first, others⟩ := List.forall_mem_cons.mp new
    have fineLater : ∀ part ∈ parts, ∀ value, (part.field, value) ∈ rest →
        ∃ own, part.read value = .ok own := fun part mem value inside =>
      fine part mem value (List.mem_cons_of_mem _ inside)
    have same : shape.fieldOf key = key := by simp [RecordShape.fieldOf, made.plain]
    rw [setMembers, same]
    by_cases known : key ∈ shape.fields
    · obtain ⟨part, mem, rfl⟩ := List.mem_map.mp (made.fields ▸ known)
      obtain ⟨own, read⟩ := fine part mem value List.mem_cons_self
      have set : shape.set record part.field value = .ok (part.put record own) := by
        rw [made.sets part mem, read]
        rfl
      have unseen : ∀ other ∈ rest, other.1 ∉ part.field :: seen := by
        intro other inside
        rw [List.mem_cons, not_or]
        refine ⟨?_, others other inside⟩
        rintro repeated
        exact notBelow (List.mem_map.mpr ⟨other, inside, repeated⟩)
      obtain ⟨result, continued⟩ := ih later fineLater unseen (part.put record own)
      refine ⟨result, ?_⟩
      simpa [known, first, set, bind, Except.bind] using continued
    · obtain ⟨result, continued⟩ := ih later fineLater others record
      exact ⟨result, by simpa [known] using continued⟩

/-- Members that hold each part of a record are read as one with these parts. -/
theorem IsMadeOf.exists_readMembers (made : shape.IsMadeOf parts) {members : List (String × Json)}
    (distinct : (members.map (·.1)).Nodup)
    (complete : ∀ field ∈ shape.required, (get? field members).isSome) {record : α}
    (holds : ∀ part ∈ parts, part.slot.Holds shape.blank (get? part.field members) record) :
    ∃ result, shape.readMembers members = .ok result ∧
      ∀ part ∈ parts, part.view result = part.view record := by
  have fine : ∀ part ∈ parts, ∀ value, (part.field, value) ∈ members →
      ∃ own, part.read value = .ok own := by
    intro part mem value inside
    exact ⟨_, (holds part mem).of_some (get?_of_mem distinct inside)⟩
  have new : ∀ member ∈ members, member.1 ∉ ([] : List String) :=
    fun _ _ => List.not_mem_nil
  obtain ⟨result, set⟩ := made.exists_setMembers distinct fine new shape.blank
  have whole : shape.required.find? (fun field => (get? field members).isNone) = none := by
    rw [List.find?_eq_none]
    intro field mem
    simpa using Option.isSome_iff_ne_none.mp (complete field mem)
  have read : shape.readMembers members = .ok result := by
    rw [readMembers, set]
    simp [whole, bind, Except.bind, pure, Except.pure]
  refine ⟨result, read, fun part mem => ?_⟩
  -- Both records hold the part of the same member.
  have own := made.holds read mem
  have wanted := holds part mem
  cases found : get? part.field members with
  | none => exact (own.of_none found).trans (wanted.of_none found).symm
  | some value => exact Except.ok.inj ((own.of_some found).symm.trans (wanted.of_some found))

/-- Records are the same if all their parts are. -/
def Tells (parts : List (Part α)) : Prop :=
  ∀ record other : α, (∀ part ∈ parts, part.view record = part.view other) → record = other

/-- **A record is read** from members that hold each part of it, if its parts tell it. -/
theorem IsMadeOf.readMembers_eq_ok (made : shape.IsMadeOf parts) (tells : Tells parts)
    {members : List (String × Json)} (distinct : (members.map (·.1)).Nodup)
    (complete : ∀ field ∈ shape.required, (get? field members).isSome) {record : α}
    (holds : ∀ part ∈ parts, part.slot.Holds shape.blank (get? part.field members) record) :
    shape.readMembers members = .ok record := by
  obtain ⟨result, read, same⟩ := made.exists_readMembers distinct complete holds
  rw [read, tells result record same]

/-- Where no key is another name of a field, such names do not matter. -/
theorem readMembers_of_plain {members : List (String × Json)}
    (plain : ∀ member ∈ members, shape.aliases.lookup member.1 = none) :
    shape.readMembers members = { shape with aliases := [] }.readMembers members := by
  have set : ∀ record seen, shape.setMembers record seen members =
      { shape with aliases := [] }.setMembers record seen members := by
    induction members with
    | nil => exact fun record seen => rfl
    | cons member rest ih =>
      intro record seen
      obtain ⟨first, others⟩ := List.forall_mem_cons.mp plain
      simp only [setMembers, fieldOf, first, List.lookup_nil, Option.getD_none, ih others]
      rfl
  rw [readMembers, readMembers, set]

end RecordShape

end CatalogFeeds
