import CatalogFeeds.Json.Shape
import CatalogFeeds.Proofs.Members
import CatalogFeeds.Proofs.Results
/-!
Reading one part of a record.

A part of a record is a view that setting any field but one keeps. What it shows of a record that
has been read is decided by the member of that field: `readMembers_view` says what the member has
done to it, `readMembers_view_of_none` that without the member it shows what a blank record has. What setting every field keeps holds of each
record that is read (`read_keeps`).
-/

namespace CatalogFeeds.RecordShape

variable {α β : Type} {shape : RecordShape α} {field : String} {view : α → β}

/-- A view shows nothing but what setting a field does. -/
def Shows (shape : RecordShape α) (field : String) (view : α → β) : Prop :=
  shape.aliases = [] ∧ ∀ record other value after, other ≠ field →
    shape.set record other value = .ok after → view after = view record

/-- Setting a field to what a value is read as changes no view that does not look at the field. -/
theorem view_of_set {γ : Type} {result : Except ShapeError γ} {build : γ → α} {after : α}
    {shown : β} (set : (do return build (← result)) = .ok after)
    (kept : ∀ c, view (build c) = shown) : view after = shown := by
  obtain ⟨c, -, same⟩ := bind_eq_ok_iff.mp set
  rw [← Except.ok.inj same, kept]

theorem Shows.fieldOf (shows : Shows shape field view) (key : String) :
    shape.fieldOf key = key := by
  simp [RecordShape.fieldOf, shows.1]

/-- Setting members takes the first of them that names a field, unless it was set before. -/
theorem setMembers_cons (shows : Shows shape field view) (record : α) (seen : List String)
    (key : String) (value : Json) (rest : List (String × Json)) {result : α}
    (h : shape.setMembers record seen ((key, value) :: rest) = .ok result) :
    key ∉ shape.fields ∧ shape.setMembers record seen rest = .ok result ∨
      key ∈ shape.fields ∧ key ∉ seen ∧ ∃ after, shape.set record key value = .ok after ∧
        shape.setMembers after (key :: seen) rest = .ok result := by
  rw [setMembers, shows.fieldOf key] at h
  by_cases known : key ∈ shape.fields
  · by_cases old : key ∈ seen
    · simp [known, old] at h
    · simp only [List.contains_eq_mem, known, old, decide_true, decide_false, Bool.not_true,
        Bool.false_eq_true, if_false] at h
      exact .inr ⟨known, old, bind_eq_ok_iff.mp h⟩
  · exact .inl ⟨known, by simpa [known] using h⟩

/-- Members that do not name the field, or may not do so any more, keep what a view shows. -/
theorem setMembers_view_of_none (shows : Shows shape field view) {record result : α}
    {seen : List String} {members : List (String × Json)}
    (unset : field ∈ seen ∨ Members.get? field members = none)
    (h : shape.setMembers record seen members = .ok result) : view result = view record := by
  induction members generalizing record seen with
  | nil =>
    simp only [setMembers, Except.ok.injEq] at h
    rw [h]
  | cons member rest ih =>
    obtain ⟨key, value⟩ := member
    have later : field ∈ seen ∨ Members.get? field rest = none := by
      refine unset.imp_right fun none => ?_
      by_cases same : key = field
      · simp [Members.get?, same] at none
      · simpa [Members.get?, same] using none
    rcases setMembers_cons shows record seen key value rest h with
      ⟨-, skipped⟩ | ⟨known, new, after, set, continued⟩
    · exact ih later skipped
    · have other : key ≠ field := by
        rintro rfl
        rcases unset with old | none
        · exact new old
        · simp [Members.get?] at none
      rw [ih (later.imp_left (List.mem_cons_of_mem key)) continued,
        shows.2 record key value after other set]

/-- The member of a field is set, and what a view shows of it stays. -/
theorem setMembers_view (shows : Shows shape field view) (known : field ∈ shape.fields)
    {record result : α} {seen : List String} {members : List (String × Json)} {value : Json}
    (new : field ∉ seen) (found : Members.get? field members = some value)
    (h : shape.setMembers record seen members = .ok result) :
    ∃ before after, shape.set before field value = .ok after ∧ view result = view after := by
  induction members generalizing record seen with
  | nil => simp [Members.get?] at found
  | cons member rest ih =>
    obtain ⟨key, first⟩ := member
    by_cases same : key = field
    · subst same
      obtain rfl : first = value := by simpa [Members.get?] using found
      rcases setMembers_cons shows record seen key first rest h with
        ⟨unknown, -⟩ | ⟨-, -, after, set, continued⟩
      · exact absurd known unknown
      · exact ⟨record, after, set,
          setMembers_view_of_none shows (.inl List.mem_cons_self) continued⟩
    · have later : Members.get? field rest = some value := by
        simpa [Members.get?, same] using found
      rcases setMembers_cons shows record seen key first rest h with
        ⟨-, skipped⟩ | ⟨-, -, after, -, continued⟩
      · exact ih new later skipped
      · exact ih (by simp [new, Ne.symm same]) later continued

theorem setMembers_of_readMembers {members : List (String × Json)} {record : α}
    (h : shape.readMembers members = .ok record) :
    shape.setMembers shape.blank [] members = .ok record := by
  obtain ⟨found, set, complete⟩ := bind_eq_ok_iff.mp h
  split at complete
  · exact absurd complete throw_ne_ok
  · rw [← Except.ok.inj complete]
    exact set

/-- **What the member of a field does to a record.** -/
theorem readMembers_view (shows : Shows shape field view) (known : field ∈ shape.fields)
    {members : List (String × Json)} {record : α} {value : Json}
    (found : Members.get? field members = some value)
    (h : shape.readMembers members = .ok record) :
    ∃ before after, shape.set before field value = .ok after ∧ view record = view after :=
  setMembers_view shows known List.not_mem_nil found (setMembers_of_readMembers h)

/-- **What a record shows of a field without a member.** -/
theorem readMembers_view_of_none (shows : Shows shape field view)
    {members : List (String × Json)} {record : α} (none : Members.get? field members = none)
    (h : shape.readMembers members = .ok record) : view record = view shape.blank :=
  setMembers_view_of_none shows (.inr none) (setMembers_of_readMembers h)

/-! ### What setting fields keeps -/

/-- Setting any field keeps a property. -/
def Keeps (shape : RecordShape α) (P : α → Prop) : Prop :=
  ∀ record field value after, P record → shape.set record field value = .ok after → P after

section Kept

variable {P : α → Prop}

theorem setMembers_keeps (keeps : shape.Keeps P)
    {record result : α} {seen : List String} {members : List (String × Json)} (own : P record)
    (h : shape.setMembers record seen members = .ok result) : P result := by
  induction members generalizing record seen with
  | nil =>
    rw [setMembers] at h
    exact Except.ok.inj h ▸ own
  | cons member rest ih =>
    rw [setMembers] at h
    split at h
    · exact ih own h
    · split at h
      · exact absurd h (by simp)
      · obtain ⟨after, set, later⟩ := bind_eq_ok_iff.mp h
        exact ih (keeps record _ member.2 after own set) later

theorem setItems_keeps (keeps : shape.Keeps P)
    {record result : α} {fields : List String} {values : List Json} (own : P record)
    (h : shape.setItems record fields values = .ok result) : P result := by
  induction fields generalizing record values with
  | nil =>
    rw [setItems] at h
    · exact Except.ok.inj h ▸ own
    · simp
  | cons field fields ih =>
    cases values with
    | nil =>
      rw [setItems] at h
      · exact Except.ok.inj h ▸ own
      · simp
    | cons value values =>
      rw [setItems] at h
      obtain ⟨after, set, later⟩ := bind_eq_ok_iff.mp h
      exact ih (keeps record field value after own set) later

/-- **What setting a field keeps** holds of every record that is read, if it holds of a blank
one. -/
theorem read_keeps (keeps : shape.Keeps P) (blank : P shape.blank) {value : Json} {record : α}
    (h : shape.read value = .ok record) : P record := by
  cases value with
  | object members => exact setMembers_keeps keeps blank (setMembers_of_readMembers h)
  | array items =>
    rw [RecordShape.read, guard_eq_ok_iff] at h
    obtain ⟨result, set, h⟩ := bind_eq_ok_iff.mp h.2
    obtain ⟨-, same⟩ := guard_eq_ok_iff.mp h
    exact Except.ok.inj same ▸ setItems_keeps keeps blank set
  | null => exact absurd h (by simp [RecordShape.read])
  | bool => exact absurd h (by simp [RecordShape.read])
  | number => exact absurd h (by simp [RecordShape.read])
  | string => exact absurd h (by simp [RecordShape.read])

end Kept

end CatalogFeeds.RecordShape
