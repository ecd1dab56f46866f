import CatalogFeeds.Path.Selector
import CatalogFeeds.Proofs.Text.Split
import Mathlib.Data.List.Forall2
/-!
Segments as they are spelled in expressions.

A text spells a segment if it is the segment with a backslash in front of some of its characters,
among them every backslash, dot and bar. Neither of the two scanners of expressions finds anything
in it: `splitAtBar` looks for a bar behind it, and `rawSegments?` takes it for one segment.

* `Spells.unbarred`, `Spells.rawSegments?_append` — what the scanners make of a spelled segment, in
  front of any text.
* `rawSegments?_led`, `rawSegments?_dotted` — what they make of a path of such segments.
* `segments?_dotted` — so a path is read as the segments that it spells.
-/

namespace CatalogFeeds.Selector

open CatalogFeeds.Text

/-- A text spells a segment. -/
inductive Spells : List Char → List Char → Prop
  | nil : Spells [] []
  | escaped (c : Char) {text segment : List Char} :
    Spells text segment → Spells ('\\' :: c :: text) (c :: segment)
  | plain {c : Char} {text segment : List Char} : c ∉ ['\\', '.', '|'] →
    Spells text segment → Spells (c :: text) (c :: segment)

/-- No bar is found in a text, whatever comes behind it. -/
def Unbarred (text : List Char) : Prop :=
  ∀ rest, splitAtBar (text ++ rest) = (text ++ (splitAtBar rest).1, (splitAtBar rest).2)

variable {text segment : List Char} {texts segments : List (List Char)}

/-- A text without characters that need a backslash spells itself. -/
theorem Spells.of_plain (plain : ∀ c ∈ text, c ∉ ['\\', '.', '|']) : Spells text text := by
  induction text with
  | nil => exact .nil
  | cons c text ih =>
    rw [List.forall_mem_cons] at plain
    exact .plain plain.1 (ih plain.2)

/-! ### Bars -/

theorem unbarred_nil : Unbarred [] :=
  fun _ => rfl

theorem Unbarred.append {more : List Char} (first : Unbarred text) (second : Unbarred more) :
    Unbarred (text ++ more) := fun rest => by
  rw [List.append_assoc, first, second]
  simp

theorem Unbarred.splitAtBar_eq (unbarred : Unbarred text) : splitAtBar text = (text, none) := by
  simpa [splitAtBar] using unbarred []

theorem unbarred_dot : Unbarred ['.'] :=
  fun _ => rfl

theorem Spells.unbarred (spells : Spells text segment) : Unbarred text := by
  induction spells with
  | nil => exact unbarred_nil
  | escaped c _ ih =>
    intro rest
    simp only [List.cons_append, splitAtBar, ih rest]
  | plain ordinary _ ih =>
    intro rest
    simp only [List.mem_cons, List.not_mem_nil, or_false, not_or] at ordinary
    simp [splitAtBar, ordinary, ih rest]

/-! ### Segments -/

theorem foldr_consHead (cs first : List Char) (others : List (List Char)) :
    cs.foldr rawSegments?.consHead (first :: others) = (cs ++ first) :: others := by
  induction cs with
  | nil => rfl
  | cons c cs ih => rw [List.foldr_cons, ih, rawSegments?.consHead, List.cons_append]

theorem rawSegments?_dot (rest : List Char) :
    rawSegments? ('.' :: rest) = (rawSegments? rest).map ([] :: ·) := by
  simp [rawSegments?]

/-- A spelled segment comes in front of the first segment of what is behind it. -/
theorem Spells.rawSegments?_append (spells : Spells text segment) (rest : List Char) :
    rawSegments? (text ++ rest) =
      (rawSegments? rest).map fun found => segment.foldr rawSegments?.consHead found := by
  induction spells with
  | nil => simp
  | escaped c _ ih => simp [rawSegments?, ih, Function.comp_def]
  | plain ordinary _ ih =>
    simp only [List.mem_cons, List.not_mem_nil, or_false, not_or] at ordinary
    simp [rawSegments?, ordinary, ih, Function.comp_def]

/-- A dot ends a spelled segment. -/
theorem Spells.rawSegments?_append_dot (spells : Spells text segment) (rest : List Char) :
    rawSegments? (text ++ '.' :: rest) = (rawSegments? rest).map (segment :: ·) := by
  simp [spells.rawSegments?_append, rawSegments?_dot, Function.comp_def, foldr_consHead]

/-! ### Paths -/

/-- Spelled segments with a dot behind each of them. -/
def led (texts : List (List Char)) : List Char :=
  texts.flatMap (· ++ ['.'])

/-- Spelled segments with a dot between each two of them. -/
def dotted (texts : List (List Char)) : List Char :=
  List.intercalate ['.'] texts

theorem led_cons (text : List Char) (texts : List (List Char)) :
    led (text :: texts) = text ++ '.' :: led texts := by
  simp [led]

theorem dotted_cons_cons (first second : List Char) (rest : List (List Char)) :
    dotted (first :: second :: rest) = first ++ '.' :: dotted (second :: rest) := by
  simp [dotted, List.intercalate_cons_cons]

theorem unbarred_led (spell : List.Forall₂ Spells texts segments) : Unbarred (led texts) := by
  induction spell with
  | nil => exact unbarred_nil
  | cons first _ ih => exact (first.unbarred.append unbarred_dot).append ih

/-- **A path begins with the segments that are spelled in front of it.** -/
theorem rawSegments?_led (spell : List.Forall₂ Spells texts segments) (rest : List Char) :
    rawSegments? (led texts ++ rest) = (rawSegments? rest).map (segments ++ ·) := by
  induction spell with
  | nil => simp [led]
  | @cons text segment texts segments first _ ih =>
    rw [led_cons, List.append_assoc, List.cons_append, first.rawSegments?_append_dot, ih]
    simp [Function.comp_def]

theorem unbarred_dotted (spell : List.Forall₂ Spells texts segments) : Unbarred (dotted texts) := by
  induction spell with
  | nil => exact unbarred_nil
  | cons first later ih =>
    cases later with
    | nil => simpa [dotted] using first.unbarred
    | cons second later =>
      rw [dotted_cons_cons, List.append_cons]
      exact (first.unbarred.append unbarred_dot).append ih

/-- **A path of spelled segments is split into them.** -/
theorem rawSegments?_dotted {first : List Char} {others : List (List Char)}
    (spell : List.Forall₂ Spells texts (first :: others)) :
    rawSegments? (dotted texts) = some (first :: others) := by
  induction others generalizing texts first with
  | nil =>
    obtain ⟨text, _, own, ⟨⟩, rfl⟩ := List.forall₂_cons_right_iff.mp spell
    simpa [dotted, rawSegments?, foldr_consHead] using own.rawSegments?_append []
  | cons second others ih =>
    obtain ⟨text, _, own, later, rfl⟩ := List.forall₂_cons_right_iff.mp spell
    obtain ⟨next, texts, -, -, rfl⟩ := List.forall₂_cons_right_iff.mp later
    rw [dotted_cons_cons, own.rawSegments?_append_dot, ih later]
    rfl

theorem Spells.ne_nil (spells : Spells text segment) (filled : segment ≠ []) : text ≠ [] := by
  cases spells with
  | nil => exact filled
  | escaped => exact List.cons_ne_nil _ _
  | plain => exact List.cons_ne_nil _ _

theorem forall_ne_nil_of_spells (spell : List.Forall₂ Spells texts segments)
    (filled : ∀ segment ∈ segments, segment ≠ []) : ∀ text ∈ texts, text ≠ [] := by
  induction spell with
  | nil => simp
  | cons first _ ih =>
    rw [List.forall_mem_cons] at filled ⊢
    exact ⟨first.ne_nil filled.1, ih filled.2⟩

theorem dotted_cons (text : List Char) (texts : List (List Char)) :
    ∃ rest, dotted (text :: texts) = text ++ rest := by
  cases texts with
  | nil => exact ⟨[], by simp [dotted]⟩
  | cons second texts =>
    exact ⟨'.' :: dotted (second :: texts), dotted_cons_cons text second texts⟩

/-- A path starts as its first segment does. -/
theorem head?_dotted (filled : text ≠ []) (texts : List (List Char)) :
    (dotted (text :: texts)).head? = text.head? := by
  obtain ⟨rest, split⟩ := dotted_cons text texts
  rw [split, List.head?_append_of_ne_nil _ filled]

/-- A path ends as its last segment does. -/
theorem endsBlank_dotted (filled : ∀ text ∈ texts, text ≠ [])
    (last : ∀ text ∈ texts.getLast?, endsBlank text = false) :
    endsBlank (dotted texts) = false := by
  induction texts with
  | nil => rfl
  | cons text texts ih =>
    cases texts with
    | nil => simpa [dotted] using last text
    | cons second texts =>
      obtain ⟨rest, split⟩ := dotted_cons second texts
      have more : dotted (second :: texts) ≠ [] := by
        simp [split, filled second (by simp)]
      rw [dotted_cons_cons, List.append_cons, endsBlank_append more]
      exact ih (fun other mem => filled other (List.mem_cons_of_mem text mem)) last

/-! ### Reading -/

/-- **What the path of an expression is read as.** -/
theorem segments?_eq_ok_iff {source : String} {path : List Char} {segments : List String} :
    segments? source path = .ok segments ↔
      path = [] ∧ segments = [] ∨
        path ≠ [] ∧ rawSegments? path = some (segments.map String.toList) ∧
          ∀ segment ∈ segments, segment ≠ "" := by
  cases path with
  | nil => simp [segments?, eq_comm]
  | cons c cs =>
    simp only [segments?, List.isEmpty_cons, Bool.false_eq_true, if_false, reduceCtorEq, false_and,
      false_or, ne_eq, not_false_iff, true_and]
    cases raw : rawSegments? (c :: cs) with
    | none => simp
    | some found =>
      by_cases empty : found.any (·.isEmpty) = true
      · simp only [empty, if_true, reduceCtorEq, Option.some.injEq, false_iff, not_and]
        rintro rfl
        simpa using empty
      · simp only [empty, Bool.false_eq_true, if_false, Except.ok.injEq, Option.some.injEq]
        constructor
        · rintro rfl
          simpa [Function.comp_def, List.eq_nil_iff_forall_not_mem] using empty
        · rintro ⟨rfl, -⟩
          simp

theorem segments?_eq_ok_iff_of_ne_nil {source : String} {path : List Char} {segments : List String}
    (filled : path ≠ []) :
    segments? source path = .ok segments ↔
      rawSegments? path = some (segments.map String.toList) ∧
        ∀ segment ∈ segments, segment ≠ "" := by
  simp [segments?_eq_ok_iff, filled]

/-- **A path is read as the segments that it spells.** -/
theorem segments?_dotted {segments : List String}
    (spell : List.Forall₂ Spells texts (segments.map String.toList))
    (filled : ∀ segment ∈ segments, segment ≠ "") (source : String) :
    segments? source (dotted texts) = .ok segments := by
  rw [segments?_eq_ok_iff]
  cases segments with
  | nil =>
    obtain rfl := List.forall₂_nil_right_iff.mp spell
    exact .inl ⟨rfl, rfl⟩
  | cons first rest =>
    have raw := rawSegments?_dotted spell
    refine .inr ⟨fun empty => ?_, raw, filled⟩
    rw [empty, rawSegments?, Option.some.injEq, List.cons.injEq] at raw
    exact filled first List.mem_cons_self (String.toList_eq_nil_iff.mp raw.1.symm)

theorem splitCall_of_first {cs : List Char} (first : cs.head? ≠ some '@') :
    splitCall cs = splitAtBar cs := by
  unfold splitCall
  split <;> simp_all

/-- A text without a bar is a path as a whole, unless its ends count for something else. -/
theorem splitCall_trim_of_unbarred (unbarred : Unbarred text)
    (first : ∀ c ∈ text.head?, c ≠ '@' ∧ isBlank c = false) (last : endsBlank text = false) :
    splitCall (trim text) = (text, none) := by
  have visible : text.head?.any isBlank = false := by
    cases start : text.head? with
    | none => rfl
    | some c => exact (first c start).2
  have noSign : text.head? ≠ some '@' := fun sign => (first '@' sign).1 rfl
  rw [trim_of_ends visible last, splitCall_of_first noSign, unbarred.splitAtBar_eq]

end CatalogFeeds.Selector
