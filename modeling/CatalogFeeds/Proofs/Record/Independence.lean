import CatalogFeeds.Proofs.Record.Assembly
/-!
Fields of a record are independent of each other.

`Proofs/Record/Assembly` says what is found in a record after a field has been set. Here records are
compared as a whole: it makes no difference which values a field had before, nor which of two fields
is set first.

* `putAt_putAt_self`, `putAt_comm` — the later of two values for one path replaces the other, and
  values for paths that are apart can be set in either order.
* `fields_independent` — the laws of fields with dotted names.
-/

namespace CatalogFeeds.Members

variable {path other : List String}

/-- Two values below one key are set one after the other in the object of that key. -/
theorem putAt_putAt_below (members : List (String × Json)) (key : String) (nonempty : path ≠ [])
    (otherNonempty : other ≠ []) (value otherValue : Json) :
    putAt (putAt members (key :: path) value) (key :: other) otherValue =
      insert key (.object (putAt (putAt (ofObject ((get? key members).getD .null)) path value)
        other otherValue)) members := by
  obtain ⟨next, more, rfl⟩ := List.exists_cons_of_ne_nil nonempty
  obtain ⟨second, others, rfl⟩ := List.exists_cons_of_ne_nil otherNonempty
  rw [putAt_cons_cons, putAt_cons_cons, get?_insert_self, insert_insert_self, Option.getD_some,
    ofObject]

/-- **The later of two values for one path replaces the other**, and nothing is left of it. -/
theorem putAt_putAt_self (members : List (String × Json)) (path : List String)
    (value later : Json) :
    putAt (putAt members path value) path later = putAt members path later := by
  induction path generalizing members with
  | nil => rfl
  | cons key rest ih =>
    cases rest with
    | nil => exact insert_insert_self key value later members
    | cons next more =>
      rw [putAt_putAt_below members key (by simp) (by simp), ih, putAt_cons_cons]

/-- **Values for paths that are apart can be set in either order.** -/
theorem putAt_comm (members : List (String × Json)) (apart : Apart path other)
    (value otherValue : Json) :
    putAt (putAt members path value) other otherValue =
      putAt (putAt members other otherValue) path value := by
  induction path generalizing members other with
  | nil => exact absurd List.nil_prefix apart.1
  | cons key rest ih =>
    obtain ⟨-, first, others, rfl⟩ := apart.exists_cons
    by_cases same : first = key
    · -- Both values are set in the object of the key that the paths share.
      have deeper : Apart rest others := apart_cons_iff.mp apart same
      obtain ⟨⟨next, more, rfl⟩, second, others, rfl⟩ := deeper.exists_cons
      rw [same, putAt_putAt_below members key (by simp) (by simp), ih _ deeper,
        putAt_putAt_below members key (by simp) (by simp)]
    · obtain ⟨below, own⟩ := exists_putAt_cons key rest value
      obtain ⟨otherBelow, otherOwn⟩ := exists_putAt_cons first others otherValue
      rw [own, otherOwn, otherOwn, own, get?_insert_of_ne same,
        get?_insert_of_ne fun eq => same eq.symm]
      exact insert_comm (fun eq => same eq.symm) _ _ members

/-- **Fields are independent of each other.** A value that is set for a field is what is found at
the field's path. At a path that is neither on the way to the field nor leads through it there is
what has been there before, even if a value on the way to the field has made place for an object.
Of the values that a field had before nothing is left, and two fields, neither of them on the way
to the other, give the same record in either order. -/
theorem fields_independent (members : List (String × Json)) (path : String) (value : Json) :
    (Json.object (setField members path value)).at? (fieldPath path) = some value ∧
    (∀ other, Apart (fieldPath path) other →
      (Json.object (setField members path value)).at? other = (Json.object members).at? other) ∧
    (∀ later, setField (setField members path value) path later = setField members path later) ∧
    ∀ other otherValue, Apart (fieldPath path) (fieldPath other) →
      setField (setField members path value) other otherValue =
        setField (setField members other otherValue) path value := by
  refine ⟨?found, ?beside, ?later, ?order⟩
  case found => exact at?_putAt_self members (fieldPath_ne_nil path) value
  case beside => exact fun other apart => at?_putAt_of_apart members apart value
  case later => exact fun later => putAt_putAt_self members (fieldPath path) value later
  case order => exact fun other otherValue apart => putAt_comm members apart value otherValue

/-- A path with an empty key, on which a list makes place for an object and a text for another. -/
theorem fields_independent_replaced :
    let members : List (String × Json) :=
      [("image", .array [.string "cover"]), ("title", .string "Krim")]
    let pictured := setField members "image..url" (.string "http://h/u")
    Apart (fieldPath "image..url") ["title"] ∧
      (Json.object pictured).at? ["title"] = some (.string "Krim") ∧
      Apart (fieldPath "image..url") (fieldPath "title.sub") ∧
      setField pictured "title.sub" .null =
        setField (setField members "title.sub" .null) "image..url" (.string "http://h/u") ∧
      setField pictured "title.sub" .null =
        [("image", .object [("", .object [("url", .string "http://h/u")])]),
          ("title", .object [("sub", .null)])] := by
  intro members pictured
  have apart : Apart (fieldPath "image..url") ["title"] := by decide
  have fieldsApart : Apart (fieldPath "image..url") (fieldPath "title.sub") := by decide
  obtain ⟨-, beside, -, order⟩ := fields_independent members "image..url" (.string "http://h/u")
  exact ⟨apart, beside ["title"] apart, fieldsApart, order "title.sub" .null fieldsApart, rfl⟩

end CatalogFeeds.Members
