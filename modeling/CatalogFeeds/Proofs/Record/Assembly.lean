import CatalogFeeds.Proofs.Members
import CatalogFeeds.Proofs.Text.Split
import CatalogFeeds.Record.Assembly
/-!
What setting a field changes in a record.

A record is looked at through `Json.at?`, what is at a path of keys.

* `exists_putAt_cons` — a path leads into a record by its first key alone.
* `at?_putAt_self`, `at?_putAt_of_apart` — a value that is set is at its path, and nothing
  changes at paths beside it, also where a value on the way had to make place for an object.
* `at?_setFields`, `exists_of_at?_setFields` — of many fields set one after the other the last value
  counts for each, and there is nothing else.
* `at?_stamp_source`, `at?_stamp_sourceUrl`, `at?_stamp_of_apart` — what a stamp leaves in a record.
* `IsNode` — setting fields below a key leaves an object there.
-/

namespace CatalogFeeds

/-- What is at a path of keys, each of them the key of an object. -/
def Json.at? : Json → List String → Option Json
  | value, [] => some value
  | value, key :: rest => (value.get? key).bind (·.at? rest)

@[simp] theorem Json.at?_nil (value : Json) : value.at? [] = some value := by
  simp [Json.at?]

/-- The keys of the path of a field. -/
def fieldPath (path : String) : List String :=
  (Text.splitAll '.' path.toList).map String.ofList

/-- Neither of two paths leads through the end of the other. -/
def Apart (path other : List String) : Prop :=
  ¬ path <+: other ∧ ¬ other <+: path

instance (path other : List String) : Decidable (Apart path other) :=
  inferInstanceAs (Decidable (_ ∧ _))

variable {path other : List String}

/-- Two paths that are apart both have a first key. -/
theorem Apart.exists_cons (apart : Apart path other) :
    (∃ key rest, path = key :: rest) ∧ ∃ key rest, other = key :: rest := by
  have filled : path ≠ [] := by
    rintro rfl
    exact apart.1 List.nil_prefix
  have otherFilled : other ≠ [] := by
    rintro rfl
    exact apart.2 List.nil_prefix
  exact ⟨List.exists_cons_of_ne_nil filled, List.exists_cons_of_ne_nil otherFilled⟩

/-- Paths are apart if their first keys differ, and otherwise if what follows those is. -/
theorem apart_cons_iff {key first : String} {rest others : List String} :
    Apart (key :: rest) (first :: others) ↔ (first = key → Apart rest others) := by
  by_cases same : first = key
  · simp [Apart, same]
  · simp [Apart, same, Ne.symm same]

namespace Members

@[simp] theorem at?_object_cons (members : List (String × Json)) (key : String)
    (rest : List String) :
    (Json.object members).at? (key :: rest) = (get? key members).bind (·.at? rest) :=
  rfl

@[simp] theorem at?_object_single (members : List (String × Json)) (key : String) :
    (Json.object members).at? [key] = get? key members := by
  simp

/-- Where an object is wanted, the members of another value are none, and nothing is below it. -/
theorem at?_ofObject (value : Json) (key : String) (rest : List String) :
    (Json.object (ofObject value)).at? (key :: rest) = value.at? (key :: rest) := by
  cases value <;> rfl

theorem at?_getD_null (value : Option Json) (key : String) (rest : List String) :
    (value.getD .null).at? (key :: rest) = value.bind (·.at? (key :: rest)) := by
  cases value <;> rfl

theorem putAt_cons_cons (members : List (String × Json)) (key next : String) (rest : List String)
    (value : Json) :
    putAt members (key :: next :: rest) value =
      insert key (.object (putAt (ofObject ((get? key members).getD .null)) (next :: rest) value))
        members :=
  rfl

/-- A path leads into a record by its first key, and what is set there depends on nothing but the
value of that key. -/
theorem exists_putAt_cons (key : String) (rest : List String) (value : Json) :
    ∃ below : Option Json → Json, ∀ members,
      putAt members (key :: rest) value = insert key (below (get? key members)) members := by
  cases rest with
  | nil => exact ⟨fun _ => value, fun _ => rfl⟩
  | cons next more =>
    exact ⟨fun found => .object (putAt (ofObject (found.getD .null)) (next :: more) value),
      fun members => putAt_cons_cons members key next more value⟩

/-- **A value that is set is at its path.** -/
theorem at?_putAt_self (members : List (String × Json)) (nonempty : path ≠ []) (value : Json) :
    (Json.object (putAt members path value)).at? path = some value := by
  induction path generalizing members with
  | nil => exact absurd rfl nonempty
  | cons key rest ih =>
    cases rest with
    | nil => simp [putAt, get?_insert_self]
    | cons next more =>
      rw [putAt_cons_cons, at?_object_cons, get?_insert_self]
      exact ih _ (by simp)

/-- **Nothing changes beside the path of a value that is set.** -/
theorem at?_putAt_of_apart (members : List (String × Json)) (apart : Apart path other)
    (value : Json) :
    (Json.object (putAt members path value)).at? other = (Json.object members).at? other := by
  induction path generalizing members other with
  | nil => exact absurd List.nil_prefix apart.1
  | cons key rest ih =>
    obtain ⟨-, first, others, rfl⟩ := apart.exists_cons
    by_cases same : first = key
    · have deeper : Apart rest others := apart_cons_iff.mp apart same
      obtain ⟨⟨next, more, rfl⟩, second, others, rfl⟩ := deeper.exists_cons
      rw [putAt_cons_cons, same, at?_object_cons, get?_insert_self, Option.bind_some,
        ih _ deeper, at?_ofObject, at?_getD_null, at?_object_cons]
    · obtain ⟨below, own⟩ := exists_putAt_cons key rest value
      rw [own, at?_object_cons, get?_insert_of_ne same, at?_object_cons]

/-! ### Fields -/

theorem setField_eq (members : List (String × Json)) (path : String) (value : Json) :
    setField members path value = putAt members (fieldPath path) value :=
  rfl

theorem fieldPath_sourceField : fieldPath Schema.sourceField = ["_meta", "source"] := by
  decide

theorem fieldPath_sourceUrlField : fieldPath Schema.sourceUrlField = ["_meta", "sourceUrl"] := by
  decide

theorem fieldPath_ne_nil (path : String) : fieldPath path ≠ [] := by
  simp [fieldPath, Text.splitAll_ne_nil]

/-- Sets fields one after the other. -/
def setFields (members : List (String × Json)) (settings : List (Field × Json)) :
    List (String × Json) :=
  settings.foldl (fun members (field, value) => setField members field.name value) members

theorem setFields_cons (members : List (String × Json)) (field : Field) (value : Json)
    (settings : List (Field × Json)) :
    setFields members ((field, value) :: settings) =
      setFields (setField members field.name value) settings :=
  rfl

/-- The last value that is set for a field. -/
def lastFor? (field : Field) (settings : List (Field × Json)) : Option Json :=
  (settings.filterMap fun (own, value) => if own = field then some value else none).getLast?

theorem lastFor?_cons (field own : Field) (value : Json) (settings : List (Field × Json)) :
    lastFor? field ((own, value) :: settings) =
      (lastFor? field settings).or (if own = field then some value else none) := by
  by_cases same : own = field
  · simp only [lastFor?, List.filterMap_cons, same, if_true, List.getLast?_cons]
    cases (settings.filterMap fun (own, value) =>
      if own = field then some value else none).getLast? <;> rfl
  · simp [lastFor?, same]

theorem isSome_lastFor? {settings : List (Field × Json)} {setting : Field × Json}
    (mem : setting ∈ settings) : (lastFor? setting.1 settings).isSome = true := by
  have inside : setting.2 ∈ settings.filterMap fun (own, value) =>
      if own = setting.1 then some value else none :=
    List.mem_filterMap.mpr ⟨setting, mem, if_pos rfl⟩
  rw [lastFor?, List.getLast?_isSome]
  exact List.ne_nil_of_mem inside

/-- **Of many fields that are set the last value counts for each**, if no field is on the way to
another. -/
theorem at?_setFields {field : Field} {settings : List (Field × Json)}
    (apart : ∀ setting ∈ settings, setting.1 ≠ field →
      Apart (fieldPath setting.1.name) (fieldPath field.name)) (members : List (String × Json)) :
    (Json.object (setFields members settings)).at? (fieldPath field.name) =
      (lastFor? field settings).or ((Json.object members).at? (fieldPath field.name)) := by
  induction settings generalizing members with
  | nil => rfl
  | cons setting settings ih =>
    obtain ⟨own, value⟩ := setting
    rw [List.forall_mem_cons] at apart
    rw [setFields_cons, ih apart.2, lastFor?_cons, Option.or_assoc, setField_eq]
    congr 1
    by_cases same : own = field
    · rw [same, at?_putAt_self members (fieldPath_ne_nil field.name), if_pos rfl, Option.some_or]
    · rw [at?_putAt_of_apart members (apart.1 same), if_neg same, Option.none_or]

/-- **There is nothing in a record but what is on the way to a field that has been set, or in its
value**, and what was there before. -/
theorem exists_of_at?_setFields {path : List String} {found : Json}
    {settings : List (Field × Json)} {members : List (String × Json)}
    (h : (Json.object (setFields members settings)).at? path = some found) :
    (∃ setting ∈ settings, ¬ Apart (fieldPath setting.1.name) path) ∨
      (Json.object members).at? path = some found := by
  induction settings generalizing members with
  | nil => exact .inr h
  | cons setting settings ih =>
    obtain ⟨own, value⟩ := setting
    rw [setFields_cons] at h
    rcases ih h with ⟨later, mem, meets⟩ | before
    · exact .inl ⟨later, List.mem_cons_of_mem _ mem, meets⟩
    · by_cases apart : Apart (fieldPath own.name) path
      · rw [setField_eq, at?_putAt_of_apart members apart] at before
        exact .inr before
      · exact .inl ⟨(own, value), List.mem_cons_self, apart⟩

/-! ### Objects inside a record -/

/-- If there is anything under a key, it is an object. -/
def IsNode (key : String) (members : List (String × Json)) : Prop :=
  ∀ value, get? key members = some value → ∃ below, value = .object below

/-- What has something below it is an object. -/
theorem isNode_of_at? {members : List (String × Json)} {key next : String} {rest : List String}
    {found : Json} (h : (Json.object members).at? (key :: next :: rest) = some found) :
    IsNode key members := by
  intro value own
  rw [at?_object_cons, own, Option.bind_some] at h
  cases value with
  | object below => exact ⟨below, rfl⟩
  | _ => simp [Json.at?, Json.get?] at h

/-- Setting a value below a key or beside it leaves an object there. -/
theorem isNode_putAt {members : List (String × Json)} {key : String} (node : IsNode key members)
    (elsewhere : path ≠ [key]) (value : Json) : IsNode key (putAt members path value) := by
  cases path with
  | nil => exact node
  | cons first rest =>
    cases rest with
    | nil =>
      have other : key ≠ first := by
        rintro rfl
        exact elsewhere rfl
      intro found own
      rw [putAt, get?_insert_of_ne other] at own
      exact node found own
    | cons next more =>
      intro found own
      rw [putAt_cons_cons] at own
      by_cases same : key = first
      · rw [same, get?_insert_self] at own
        exact ⟨_, (Option.some.inj own).symm⟩
      · rw [get?_insert_of_ne same] at own
        exact node found own

theorem isNode_setFields {members : List (String × Json)} {key : String}
    {settings : List (Field × Json)} (node : IsNode key members)
    (elsewhere : ∀ setting ∈ settings, fieldPath setting.1.name ≠ [key]) :
    IsNode key (setFields members settings) := by
  induction settings generalizing members with
  | nil => exact node
  | cons setting settings ih =>
    obtain ⟨own, value⟩ := setting
    rw [List.forall_mem_cons] at elsewhere
    exact ih (isNode_putAt node elsewhere.1 value) elsewhere.2

/-! ### Stamps -/

/-- A stamped record holds the name of the source. -/
theorem at?_stamp_source (members : List (String × Json)) (source key : String) :
    (Json.object (stamp members source key)).at? ["_meta", "source"] = some (.string source) := by
  simp only [stamp, setField_eq, fieldPath_sourceField, fieldPath_sourceUrlField]
  split
  · exact at?_putAt_self members (by simp) _
  · rw [at?_putAt_of_apart _ (by decide), at?_putAt_self members (by simp)]

/-- A stamped record holds the key of the endpoint, unless that is empty. -/
theorem at?_stamp_sourceUrl (members : List (String × Json)) (source key : String) :
    (Json.object (stamp members source key)).at? ["_meta", "sourceUrl"] =
      if key.isEmpty then (Json.object members).at? ["_meta", "sourceUrl"]
      else some (.string key) := by
  simp only [stamp, setField_eq, fieldPath_sourceField, fieldPath_sourceUrlField]
  split
  · exact at?_putAt_of_apart members (by decide) _
  · exact at?_putAt_self _ (by simp) _

/-- A stamp leaves alone what is beside it. -/
theorem at?_stamp_of_apart (members : List (String × Json)) (source key : String)
    (named : Apart ["_meta", "source"] path) (keyed : Apart ["_meta", "sourceUrl"] path) :
    (Json.object (stamp members source key)).at? path = (Json.object members).at? path := by
  simp only [stamp, setField_eq, fieldPath_sourceField, fieldPath_sourceUrlField]
  split
  · exact at?_putAt_of_apart members named _
  · rw [at?_putAt_of_apart _ keyed, at?_putAt_of_apart members named]

theorem isNode_stamp {members : List (String × Json)} {node : String}
    (isNode : IsNode node members) (source key : String) :
    IsNode node (stamp members source key) := by
  simp only [stamp, setField_eq, fieldPath_sourceField, fieldPath_sourceUrlField]
  split
  · exact isNode_putAt isNode (by simp) _
  · exact isNode_putAt (isNode_putAt isNode (by simp) _) (by simp) _

end Members

end CatalogFeeds
