import CatalogFeeds.Engine.Decode
import Mathlib.Data.List.Forall2
/-!
Payloads and their elements.

What an element becomes is a matter of that element (`decodeAlone`); a payload adds nothing but
the order of its elements and the place at which the first one fails.

* `elements_eq_ok_iff` — the elements of a payload are those of an array that the root of the
  endpoint leads to, and there are none otherwise.
* `decodeFrom_eq_ok_iff`, `decodeFrom_of_failure` — decoding elements one after another, by
  induction over them.
* `decode_elementwise` — a payload decodes exactly if each of its elements does alone, and
  otherwise fails for the first that does not.
-/

namespace CatalogFeeds

/-- Why an element cannot be decoded, wherever it stands: a mapping fails, or the record does not
have the shape that is wanted. -/
inductive ElementError where
  | mapping (error : EndpointError)
  | shape (error : ShapeError)

/-- The error of a payload whose element at an index cannot be decoded. -/
def ElementError.located (endpoint : Endpoint) (index : Nat) : ElementError → EndpointError
  | mapping error => error
  | shape error =>
    .decode ("record " ++ toString index ++ " does not fit the " ++ endpoint.schema.name ++
      " schema: " ++ error.message .json)

namespace Engine

variable {α : Type} (engine : Engine) (endpoint : Endpoint) (read : Json → Except ShapeError α)

/-- The record of an element by itself. -/
def decodeAlone (item : Json) : Except ElementError α := do
  let record ← (engine.recordOf endpoint item).mapError .mapping
  (read (.object (Members.stamp record engine.name endpoint.signature))).mapError .shape

/-- The root of an endpoint leads to an array with the given items. -/
def RootItems (payload : ByteArray) (items : List Json) : Prop :=
  ∃ document, Json.parseBytes? payload = some document ∧
    endpoint.root.evaluate document = .ok (some (.array items))

/-! ### The root -/

variable {endpoint} in
/-- **Where elements come from.** -/
theorem elements_eq_ok_iff {payload : ByteArray} {items : List Json} :
    elements endpoint payload = .ok items ↔ RootItems endpoint payload items := by
  unfold elements RootItems
  cases parsed : Json.parseBytes? payload with
  | none => simp [throw, throwThe, MonadExceptOf.throw]
  | some document =>
    cases evaluated : endpoint.root.evaluate document with
    | error error => simp [evaluated, bind, Except.bind, Except.mapError]
    | ok found =>
      simp only [evaluated, bind, Except.bind, Except.mapError, Option.some.injEq,
        exists_eq_left', Except.ok.injEq]
      split
      · simp [pure, Except.pure]
      · rename_i other
        simp only [throw, throwThe, MonadExceptOf.throw, reduceCtorEq, false_iff]
        exact other items

/-- A payload without an array at its root fails as a whole. -/
theorem decode_of_noRoot {payload : ByteArray}
    (none : ∀ items, ¬ RootItems endpoint payload items) :
    ∃ error, engine.decode endpoint read payload = .error error := by
  cases found : elements endpoint payload with
  | ok items => exact absurd (elements_eq_ok_iff.mp found) (none items)
  | error error => exact ⟨error, by simp [decode, found, bind, Except.bind]⟩

variable {endpoint} in
theorem decode_of_rootItems {payload : ByteArray} {items : List Json}
    (root : RootItems endpoint payload items) :
    engine.decode endpoint read payload = engine.decodeFrom endpoint read 0 items := by
  simp [decode, elements_eq_ok_iff.mpr root, bind, Except.bind]

/-! ### One element after another -/

/-- An element is decoded as it is alone, and its index shows in its error only. -/
theorem decodeElement_eq (index : Nat) (item : Json) :
    engine.decodeElement endpoint read index item =
      (engine.decodeAlone endpoint read item).mapError (·.located endpoint index) := by
  unfold decodeElement decodeAlone
  cases engine.recordOf endpoint item with
  | error error => rfl
  | ok record =>
    simp only [bind, Except.bind, Except.mapError]
    cases read (.object (Members.stamp record engine.name endpoint.signature)) <;> rfl

theorem decodeFrom_cons (index : Nat) (item : Json) (items : List Json) :
    engine.decodeFrom endpoint read index (item :: items) =
      match engine.decodeAlone endpoint read item with
      | .error error => .error (error.located endpoint index)
      | .ok record => (engine.decodeFrom endpoint read (index + 1) items).map (record :: ·) := by
  rw [decodeFrom, decodeElement_eq]
  cases engine.decodeAlone endpoint read item with
  | error error => rfl
  | ok record => cases engine.decodeFrom endpoint read (index + 1) items <;> rfl

variable {engine endpoint read}

/-- Elements decode together exactly if each decodes alone, to the same records in their order. -/
theorem decodeFrom_eq_ok_iff {index : Nat} {items : List Json} {records : List α} :
    engine.decodeFrom endpoint read index items = .ok records ↔
      List.Forall₂ (fun item record => engine.decodeAlone endpoint read item = .ok record)
        items records := by
  induction items generalizing index records with
  | nil => cases records <;> simp [decodeFrom]
  | cons item items ih =>
    rw [decodeFrom_cons, List.forall₂_cons_left_iff]
    cases alone : engine.decodeAlone endpoint read item with
    | error error => simp
    | ok record =>
      cases later : engine.decodeFrom endpoint read (index + 1) items with
      | error error =>
        have failed : ∀ others, ¬ List.Forall₂
            (fun item record => engine.decodeAlone endpoint read item = .ok record)
            items others := fun others all => by
          rw [ih.mpr all] at later
          contradiction
        simp [Except.map, failed]
      | ok others =>
        have decoded := ih.mp later
        simp only [Except.map, Except.ok.injEq]
        constructor
        · rintro rfl
          exact ⟨record, others, rfl, decoded, rfl⟩
        · rintro ⟨_, others', rfl, all, rfl⟩
          have same := later.symm.trans (ih.mpr all)
          rw [Except.ok.inj same]

/-- Elements fail together for the first of them that fails alone. -/
theorem decodeFrom_of_failure {index : Nat} {before after : List Json} {item : Json}
    {error : ElementError}
    (decodable : ∀ other ∈ before, ∃ record, engine.decodeAlone endpoint read other = .ok record)
    (failed : engine.decodeAlone endpoint read item = .error error) :
    engine.decodeFrom endpoint read index (before ++ item :: after) =
      .error (error.located endpoint (index + before.length)) := by
  induction before generalizing index with
  | nil => simp [decodeFrom_cons, failed]
  | cons other before ih =>
    obtain ⟨record, alone⟩ := decodable other List.mem_cons_self
    have later : engine.decodeFrom endpoint read (index + 1) (before ++ item :: after) =
        .error (error.located endpoint (index + 1 + before.length)) :=
      ih fun other mem => decodable other (List.mem_cons_of_mem _ mem)
    rw [List.cons_append, decodeFrom_cons, alone]
    simp only [later, Except.map, List.length_cons, Nat.add_assoc, Nat.add_comm 1]

/-! ### Payloads -/

/-- A payload decodes exactly if its elements do. -/
theorem decode_eq_ok_iff {payload : ByteArray} {records : List α} :
    engine.decode endpoint read payload = .ok records ↔
      ∃ items, RootItems endpoint payload items ∧
        List.Forall₂ (fun item record => engine.decodeAlone endpoint read item = .ok record)
          items records := by
  constructor
  · intro decoded
    cases found : elements endpoint payload with
    | error error => simp [decode, found, bind, Except.bind] at decoded
    | ok items =>
      have root := elements_eq_ok_iff.mp found
      rw [engine.decode_of_rootItems read root] at decoded
      exact ⟨items, root, decodeFrom_eq_ok_iff.mp decoded⟩
  · rintro ⟨items, root, all⟩
    rw [engine.decode_of_rootItems read root]
    exact decodeFrom_eq_ok_iff.mpr all

variable (engine endpoint read) in
/-- **Decoding is element by element, and all or nothing.** A payload decodes exactly if it is
JSON with an array at the root of the endpoint and each element decodes alone; the records are
those of the elements, in their order. It fails for the first element that fails alone, and
without an array at the root in any case. In a payload of one element that element is alone. -/
theorem decode_elementwise (payload : ByteArray) :
    (∀ records, engine.decode endpoint read payload = .ok records ↔
      ∃ items, RootItems endpoint payload items ∧
        List.Forall₂ (fun item record => engine.decodeAlone endpoint read item = .ok record)
          items records) ∧
    (∀ before item after error, RootItems endpoint payload (before ++ item :: after) →
      (∀ other ∈ before, ∃ record, engine.decodeAlone endpoint read other = .ok record) →
      engine.decodeAlone endpoint read item = .error error →
      engine.decode endpoint read payload = .error (error.located endpoint before.length)) ∧
    ((∀ items, ¬ RootItems endpoint payload items) →
      ∃ error, engine.decode endpoint read payload = .error error) ∧
    ∀ item, RootItems endpoint payload [item] → engine.decode endpoint read payload =
      ((engine.decodeAlone endpoint read item).map fun record => [record]).mapError
        (·.located endpoint 0) := by
  refine ⟨fun records => decode_eq_ok_iff, ?_, engine.decode_of_noRoot endpoint read, ?_⟩
  · intro before item after error root decodable failed
    rw [engine.decode_of_rootItems read root, decodeFrom_of_failure decodable failed,
      Nat.zero_add]
  · intro item root
    rw [engine.decode_of_rootItems read root, decodeFrom_cons]
    cases engine.decodeAlone endpoint read item <;> rfl

end Engine

end CatalogFeeds
