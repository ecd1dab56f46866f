import CatalogFeeds.Path.Evaluate
import CatalogFeeds.Proofs.Path.Written
/-!
Following one path after another.

A path hands its value on to the rest of the path segment by segment. The one segment that does not
is a number sign at an array: its value is the length, and whatever comes behind it is passed over.

* `follow?_append` — along a path without such a number sign, following two paths at once is
  following one after the other.
* `follow?_of_counts` — with one, the path leads to the length whatever comes behind it.
* `paths_compose_iff` — so expressions compose exactly where no number sign is in the way.
-/

namespace CatalogFeeds

open CatalogFeeds.Text

namespace Json

variable {document : Json} {path more : List String}

@[simp] theorem follow?_nil (document : Json) : document.follow? [] = some document := by
  simp [follow?]

@[simp] theorem follow?_object_cons (members : List (String × Json)) (key : String)
    (rest : List String) :
    (object members).follow? (key :: rest) = (Members.get? key members).bind (·.follow? rest) := by
  simp [follow?]

@[simp] theorem follow?_ofNat_cons (n : Nat) (segment : String) (rest : List String) :
    (ofNat n).follow? (segment :: rest) = none := by
  simp [follow?, ofNat]

theorem follow?_array_count (items : List Json) (rest : List String) :
    (array items).follow? ("#" :: rest) = some (ofNat items.length) := by
  simp [follow?]

/-- Any segment but a number sign is an index into an array. -/
theorem follow?_array_cons (items : List Json) {segment : String} (index : segment ≠ "#")
    (rest : List String) :
    (array items).follow? (segment :: rest) =
      ((natural? segment.toList).bind (items[·]?)).bind (·.follow? rest) := by
  simp [follow?, index, Option.bind_assoc, bind]

/-- Following a path meets a number sign at an array. -/
def CountsAlong (document : Json) (path : List String) : Prop :=
  ∃ front rest items, path = front ++ "#" :: rest ∧ document.follow? front = some (array items)

/-- A path meets what the path behind its first segment meets. -/
theorem CountsAlong.cons {segment : String} {value : Json}
    (step : ∀ rest, document.follow? (segment :: rest) = value.follow? rest)
    (counts : value.CountsAlong path) : document.CountsAlong (segment :: path) := by
  obtain ⟨front, rest, items, rfl, found⟩ := counts
  exact ⟨segment :: front, rest, items, rfl, (step front).trans found⟩

/-- **Following two paths is following one after the other**, where nothing is counted. -/
theorem follow?_append (free : ¬ document.CountsAlong path) (more : List String) :
    document.follow? (path ++ more) = (document.follow? path).bind (·.follow? more) := by
  induction path generalizing document with
  | nil => simp
  | cons segment rest ih =>
    cases document with
    | object members =>
      rw [List.cons_append, follow?_object_cons, follow?_object_cons]
      cases found : Members.get? segment members with
      | none => rfl
      | some value =>
        exact ih fun counts => free (counts.cons fun rest => by simp [found])
    | array items =>
      have index : segment ≠ "#" := by
        rintro rfl
        exact free ⟨[], rest, items, rfl, follow?_nil _⟩
      rw [List.cons_append, follow?_array_cons items index, follow?_array_cons items index]
      cases found : (natural? segment.toList).bind (items[·]?) with
      | none => rfl
      | some value =>
        exact ih fun counts =>
          free (counts.cons fun rest => by simp [follow?_array_cons items index, found])
    | null => simp [follow?]
    | bool _ => simp [follow?]
    | number _ => simp [follow?]
    | string _ => simp [follow?]

/-- **A number sign at an array ends a path**, whatever comes behind it. -/
theorem follow?_of_counts {front : List String} {items : List Json}
    (found : document.follow? front = some (array items)) (rest : List String) :
    document.follow? (front ++ "#" :: rest) = some (ofNat items.length) := by
  induction front generalizing document with
  | nil =>
    obtain rfl := Option.some.inj ((follow?_nil document).symm.trans found)
    exact follow?_array_count items rest
  | cons segment front ih =>
    cases document with
    | object members =>
      rw [follow?_object_cons, Option.bind_eq_some_iff] at found
      obtain ⟨value, own, later⟩ := found
      rw [List.cons_append, follow?_object_cons, own]
      exact ih later
    | array others =>
      by_cases index : segment = "#"
      · simp [index, follow?_array_count, ofNat] at found
      · rw [follow?_array_cons others index, Option.bind_eq_some_iff] at found
        obtain ⟨value, own, later⟩ := found
        rw [List.cons_append, follow?_array_cons others index, own]
        exact ih later
    | null => simp [follow?] at found
    | bool _ => simp [follow?] at found
    | number _ => simp [follow?] at found
    | string _ => simp [follow?] at found

/-- A path that counts leads to a number, and so does every path that goes on behind it. -/
theorem CountsAlong.length (counts : document.CountsAlong path) :
    ∃ length, ∀ more, document.follow? (path ++ more) = some (ofNat length) := by
  obtain ⟨front, rest, items, rfl, found⟩ := counts
  exact ⟨items.length, fun more => by simpa using follow?_of_counts found (rest ++ more)⟩

@[simp] theorem present?_ofNat (n : Nat) : (ofNat n).present? = some (ofNat n) :=
  rfl

end Json

namespace Selector

variable {document : Json} {path more : List String}

/-- The expression of a path, without a modifier. -/
def along (path : List String) : Selector :=
  ⟨text path none, path, none⟩

/-- Evaluates an expression in what another leads to. Where that is nothing, nothing is found. -/
def evaluateThen (first second : Selector) (document : Json) :
    Except PathError (Option Json) := do
  match ← first.evaluate document with
  | some value => second.evaluate value
  | none => return none

theorem evaluate_along (path : List String) (document : Json) :
    (along path).evaluate document = .ok ((document.follow? path).bind Json.present?) :=
  rfl

theorem evaluateThen_along (path more : List String) (document : Json) :
    (along path).evaluateThen (along more) document =
      .ok (((document.follow? path).bind Json.present?).bind fun value =>
        (value.follow? more).bind Json.present?) := by
  rw [evaluateThen, evaluate_along]
  cases (document.follow? path).bind Json.present? <;> rfl

/-- Null is not found, and neither is anything below it. -/
theorem present?_bind_follow? (value : Json) (more : List String) :
    (value.present?.bind fun value => (value.follow? more).bind Json.present?) =
      (value.follow? more).bind Json.present? := by
  cases value with
  | null => cases more <;> simp [Json.present?, Json.isNull, Json.follow?]
  | _ => rfl

theorem evaluate_along_append (free : ¬ document.CountsAlong path) (more : List String) :
    (along (path ++ more)).evaluate document = (along path).evaluateThen (along more) document := by
  rw [evaluate_along, evaluateThen_along, Json.follow?_append free]
  cases document.follow? path with
  | none => rfl
  | some value => exact congrArg Except.ok (present?_bind_follow? value more).symm

/-- **Expressions compose exactly where no number sign is in the way.** Evaluating two paths at once
is evaluating the second in what the first leads to, if the second is empty or the first meets no
number sign at an array; and only then, because behind such a number sign the second path is passed
over. A path that is not found is not found with anything behind it either. -/
theorem paths_compose_iff (document : Json) (path more : List String) :
    ((along (path ++ more)).evaluate document =
        (along path).evaluateThen (along more) document ↔
      more = [] ∨ ¬ document.CountsAlong path) ∧
    (document.CountsAlong path →
      (along (path ++ more)).evaluate document = (along path).evaluate document) ∧
    ((along path).evaluate document = .ok none →
      (along (path ++ more)).evaluate document = .ok none) := by
  by_cases counts : document.CountsAlong path
  · obtain ⟨length, found⟩ := counts.length
    have own : document.follow? path = some (.ofNat length) := by simpa using found []
    refine ⟨?_, fun _ => by rw [evaluate_along, evaluate_along, found, own], fun absent => ?_⟩
    · rw [evaluate_along, evaluateThen_along, found, own]
      cases more with
      | nil => simp
      | cons segment rest => simp [counts]
    · simp [evaluate_along, own] at absent
  · refine ⟨by simp [counts, evaluate_along_append counts], fun found => absurd found counts,
      fun absent => ?_⟩
    rw [evaluate_along_append counts, evaluateThen, absent]
    rfl

/-- The first item behind the length of an array: nothing is below a number, but the length is
found. -/
theorem count_passes_over_index :
    let document : Json := .array [.string "a", .string "b"]
    (along (["#"] ++ ["0"])).evaluate document = .ok (some (.ofNat 2)) ∧
      (along ["#"]).evaluateThen (along ["0"]) document = .ok none ∧
      (along (["#"] ++ ["0"])).evaluate document ≠
        (along ["#"]).evaluateThen (along ["0"]) document := by
  intro document
  have both : (along (["#"] ++ ["0"])).evaluate document = .ok (some (.ofNat 2)) := rfl
  have apart : (along ["#"]).evaluateThen (along ["0"]) document = .ok none := rfl
  exact ⟨both, apart, by rw [both, apart]; simp⟩

end Selector

end CatalogFeeds
