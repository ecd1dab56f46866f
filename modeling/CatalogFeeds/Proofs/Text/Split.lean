import CatalogFeeds.Text.Ascii
import CatalogFeeds.Text.Blank
import Mathlib.Data.List.Basic
import Mathlib.Data.List.Induction
/-!
Splitting texts and trimming them.

* `splitAll_append` — a separator between two texts separates their parts, and `splitAll_of_notMem`
  says that nothing else does.
* `ledBy_splitAll`, `splitAll_ledBy` — splitting undoes writing a separator in front of each part.
* `splitOnce_append`, `eq_of_splitOnce` — a text is split once at the first separator.
* `trim_of_ends`, `trim_append`, `not_endsBlank_trim` — trimming leaves a text without blanks at
  its ends as it is, also behind another one, and leaves no others.
-/

namespace CatalogFeeds.Text

variable {sep : Char} {cs before after : List Char} {p : Char → Bool}

theorem toNat_lt_of_isAlphanumeric {c : Char} (h : isAlphanumeric c = true) : c.toNat < 128 := by
  simp only [isAlphanumeric, isLetter, isDigit, Bool.or_eq_true, Bool.and_eq_true,
    decide_eq_true_eq] at h
  have low : c ≤ 'z' := by
    rcases h with (h | h) | h
    · exact h.2
    · exact Char.le_trans h.2 (by decide)
    · exact Char.le_trans h.2 (by decide)
  exact Nat.lt_of_le_of_lt low (by decide)

/-! ### Every separator -/

theorem splitAll_of_notMem (none : sep ∉ cs) : splitAll sep cs = [cs] := by
  induction cs with
  | nil => rfl
  | cons c cs ih =>
    have other : (c == sep) = false :=
      beq_eq_false_iff_ne.mpr fun same => none (same ▸ List.mem_cons_self)
    simp [splitAll, other, ih fun mem => none (List.mem_cons_of_mem c mem)]

variable (sep) in
theorem splitAll_ne_nil (cs : List Char) : splitAll sep cs ≠ [] := by
  cases cs with
  | nil => simp [splitAll]
  | cons c cs =>
    rw [splitAll]
    split
    · simp
    · split <;> simp

/-- A separator between two texts separates their parts. -/
theorem splitAll_append (cs ds : List Char) :
    splitAll sep (cs ++ sep :: ds) = splitAll sep cs ++ splitAll sep ds := by
  induction cs with
  | nil => simp [splitAll]
  | cons c cs ih =>
    rw [List.cons_append, splitAll, splitAll, ih]
    by_cases same : c == sep
    · simp [same]
    · obtain ⟨part, parts, split⟩ := List.exists_cons_of_ne_nil (splitAll_ne_nil sep cs)
      simp [same, split]

theorem mem_of_mem_splitAll {c : Char} {part : List Char} (h : part ∈ splitAll sep cs)
    (mem : c ∈ part) : c ∈ cs := by
  induction cs generalizing part with
  | nil => simp_all [splitAll]
  | cons d cs ih =>
    rw [splitAll] at h
    split at h
    · rcases List.mem_cons.mp h with rfl | later
      · simp at mem
      · exact List.mem_cons_of_mem d (ih later mem)
    · cases parts : splitAll sep cs with
      | nil =>
        simp only [parts, List.mem_singleton] at h
        subst h
        exact List.mem_cons.mpr (.inl (List.mem_singleton.mp mem))
      | cons first rest =>
        simp only [parts, List.mem_cons] at h
        rcases h with rfl | later
        · rcases List.mem_cons.mp mem with rfl | inside
          · exact List.mem_cons_self
          · exact List.mem_cons_of_mem d (ih (parts ▸ List.mem_cons_self) inside)
        · exact List.mem_cons_of_mem d (ih (parts ▸ List.mem_cons_of_mem first later) mem)

theorem notMem_of_mem_splitAll {part : List Char} (h : part ∈ splitAll sep cs) : sep ∉ part := by
  induction cs generalizing part with
  | nil => simp_all [splitAll]
  | cons c cs ih =>
    obtain ⟨first, rest, parts⟩ := List.exists_cons_of_ne_nil (splitAll_ne_nil sep cs)
    rw [splitAll, parts] at h
    rw [parts] at ih
    by_cases same : c = sep
    · simp only [same, beq_self_eq_true, if_true, List.mem_cons] at h
      rcases h with rfl | rfl | later
      · simp
      · exact ih List.mem_cons_self
      · exact ih (List.mem_cons_of_mem first later)
    · simp only [beq_iff_eq, same, if_false, List.mem_cons] at h
      rcases h with rfl | later
      · simpa [Ne.symm same] using ih List.mem_cons_self
      · exact ih (List.mem_cons_of_mem first later)

/-! ### Parts with a separator in front of each -/

/-- Parts with a separator in front of each of them. -/
def ledBy (sep : Char) (parts : List (List Char)) : List Char :=
  parts.flatMap (sep :: ·)

@[simp] theorem ledBy_nil : ledBy sep [] = [] :=
  rfl

@[simp] theorem ledBy_cons (part : List Char) (parts : List (List Char)) :
    ledBy sep (part :: parts) = sep :: (part ++ ledBy sep parts) :=
  rfl

theorem ledBy_append (front parts : List (List Char)) :
    ledBy sep (front ++ parts) = ledBy sep front ++ ledBy sep parts :=
  List.flatMap_append

/-- Joining parts puts a separator in front of each of them but the first. -/
theorem intercalate_cons (part : List Char) (parts : List (List Char)) :
    [sep].intercalate (part :: parts) = part ++ ledBy sep parts := by
  induction parts generalizing part with
  | nil => simp
  | cons next parts ih => rw [List.intercalate_cons_cons, ih, ledBy_cons, List.append_assoc]; rfl

theorem length_le_ledBy (parts : List (List Char)) : parts.length ≤ (ledBy sep parts).length := by
  induction parts with
  | nil => simp
  | cons part parts ih =>
    rw [ledBy_cons, List.length_cons, List.length_cons, List.length_append]
    omega

theorem ledBy_splitAll (cs : List Char) : ledBy sep (splitAll sep cs) = sep :: cs := by
  induction cs with
  | nil => simp [splitAll]
  | cons c cs ih =>
    obtain ⟨first, rest, parts⟩ := List.exists_cons_of_ne_nil (splitAll_ne_nil sep cs)
    rw [parts, ledBy_cons, List.cons.injEq] at ih
    by_cases same : c = sep
    · simp [splitAll, parts, same, ih.2]
    · simp [splitAll, parts, same, ih.2]

theorem splitAll_ledBy {parts : List (List Char)} (none : ∀ part ∈ parts, sep ∉ part) :
    splitAll sep (ledBy sep parts) = [] :: parts := by
  induction parts with
  | nil => rfl
  | cons part parts ih =>
    have first := splitAll_of_notMem (none part List.mem_cons_self)
    have later := ih fun other mem => none other (List.mem_cons_of_mem part mem)
    rw [ledBy_cons, splitAll, beq_self_eq_true, if_pos rfl]
    cases parts with
    | nil => simp [first]
    | cons next parts =>
      rw [ledBy_cons, splitAll_append, first]
      rw [ledBy_cons, splitAll, beq_self_eq_true, if_pos rfl, List.cons.injEq] at later
      rw [later.2]
      rfl

/-! ### The first separator -/

theorem splitOnce_of_notMem (none : sep ∉ cs) : splitOnce sep cs = .none := by
  induction cs with
  | nil => rfl
  | cons c cs ih =>
    have other : (c == sep) = false :=
      beq_eq_false_iff_ne.mpr fun same => none (same ▸ List.mem_cons_self)
    simp [splitOnce, other, ih fun mem => none (List.mem_cons_of_mem c mem)]

theorem splitOnce_append (none : sep ∉ before) (after : List Char) :
    splitOnce sep (before ++ sep :: after) = some (before, after) := by
  induction before with
  | nil => simp [splitOnce]
  | cons c before ih =>
    have other : (c == sep) = false :=
      beq_eq_false_iff_ne.mpr fun same => none (same ▸ List.mem_cons_self)
    simp [splitOnce, other, ih fun mem => none (List.mem_cons_of_mem c mem)]

theorem eq_of_splitOnce (h : splitOnce sep cs = some (before, after)) :
    cs = before ++ sep :: after := by
  induction cs generalizing before with
  | nil => simp [splitOnce] at h
  | cons c cs ih =>
    rw [splitOnce] at h
    by_cases same : c = sep
    · simp only [same, beq_self_eq_true, if_true, Option.some.injEq, Prod.mk.injEq] at h
      simp [same, ← h.1, h.2]
    · simp only [beq_iff_eq, same, if_false, Option.map_eq_some_iff, Prod.exists,
        Prod.mk.injEq] at h
      obtain ⟨front, rest, found, rfl, rfl⟩ := h
      simp [ih found]

theorem notMem_of_splitOnce (h : splitOnce sep cs = some (before, after)) : sep ∉ before := by
  induction cs generalizing before with
  | nil => simp [splitOnce] at h
  | cons c cs ih =>
    rw [splitOnce] at h
    by_cases same : c = sep
    · simp only [same, beq_self_eq_true, if_true, Option.some.injEq, Prod.mk.injEq] at h
      simp [← h.1]
    · simp only [beq_iff_eq, same, if_false, Option.map_eq_some_iff, Prod.exists,
        Prod.mk.injEq] at h
      obtain ⟨front, rest, found, rfl, rfl⟩ := h
      simp [Ne.symm same, ih found]

theorem splitOnce_eq_none_iff : splitOnce sep cs = none ↔ sep ∉ cs := by
  refine ⟨fun h mem => ?_, splitOnce_of_notMem⟩
  induction cs with
  | nil => simp at mem
  | cons c cs ih =>
    rw [splitOnce] at h
    split at h
    · contradiction
    · rename_i other
      rcases List.mem_cons.mp mem with rfl | later
      · simp at other
      · exact ih (Option.map_eq_none_iff.mp h) later

/-! ### The ends of a text -/

theorem dropEndWhile_append {c : Char} (stop : p c = false) (cs ds : List Char) :
    dropEndWhile p (cs ++ c :: ds) = cs ++ c :: dropEndWhile p ds := by
  have behind : (cs ++ c :: ds).reverse = ds.reverse ++ c :: cs.reverse := by simp
  rw [dropEndWhile, dropEndWhile, behind, List.dropWhile_append]
  cases rest : (ds.reverse.dropWhile p).isEmpty with
  | true => simp [List.isEmpty_iff.mp rest, stop]
  | false => simp

theorem dropEndWhile_of_last (last : cs.getLast?.any p = false) : dropEndWhile p cs = cs := by
  rcases cs.eq_nil_or_concat' with rfl | ⟨front, c, rfl⟩
  · rfl
  · have stop : p c = false := by simpa using last
    simp [dropEndWhile, stop]

theorem last_dropEndWhile (p : Char → Bool) (cs : List Char) :
    (dropEndWhile p cs).getLast?.any p = false := by
  have stops := List.head?_dropWhile_not p cs.reverse
  rw [dropEndWhile, List.getLast?_reverse]
  cases first : (cs.reverse.dropWhile p).head? with
  | none => rfl
  | some c => simpa [first] using stops

/-- Without the separators at its end, a text is led by the first of its parts. -/
theorem exists_dropEndWhile_ledBy {parts : List (List Char)}
    (none : ∀ part ∈ parts, sep ∉ part) :
    ∃ front, front <+: parts ∧ dropEndWhile (· == sep) (ledBy sep parts) = ledBy sep front := by
  induction parts using List.reverseRecOn with
  | nil => exact ⟨[], List.nil_prefix, rfl⟩
  | append_singleton parts last ih =>
    have shape : ledBy sep (parts ++ [last]) = ledBy sep parts ++ sep :: last := by
      simp [ledBy_append]
    rcases last.eq_nil_or_concat' with rfl | ⟨start, c, rfl⟩
    · obtain ⟨front, before, dropped⟩ := ih fun part mem => none part (List.mem_append_left _ mem)
      refine ⟨front, before.trans (List.prefix_append parts _), ?_⟩
      rw [← dropped, shape]
      simp [dropEndWhile]
    · have other : c ≠ sep := by
        rintro rfl
        exact none (start ++ [c]) (by simp) (by simp)
      refine ⟨parts ++ [start ++ [c]], List.prefix_rfl, dropEndWhile_of_last ?_⟩
      rw [shape, ← List.cons_append, ← List.append_assoc, List.getLast?_concat]
      simp [other]

/-- Whether a text ends with a blank. -/
def endsBlank (cs : List Char) : Bool :=
  cs.getLast?.any isBlank

theorem endsBlank_append (filled : after ≠ []) (before : List Char) :
    endsBlank (before ++ after) = endsBlank after := by
  rw [endsBlank, endsBlank, List.getLast?_append_of_ne_nil before filled]

/-- What a text ends with ends as the text does. -/
theorem endsBlank_of_suffix (suffix : after <:+ cs) (last : endsBlank cs = false) :
    endsBlank after = false := by
  obtain ⟨front, rfl⟩ := suffix
  by_cases filled : after = []
  · simp [filled, endsBlank]
  · rwa [endsBlank_append filled] at last

theorem trim_of_ends (first : cs.head?.any isBlank = false) (last : endsBlank cs = false) :
    trim cs = cs := by
  have kept : cs.dropWhile isBlank = cs := by
    cases cs with
    | nil => rfl
    | cons c cs => exact List.dropWhile_cons_of_neg (by simpa using first)
  rw [trim, stripWhile, kept, dropEndWhile_of_last last]

/-- Nothing is dropped in front of a text that starts with no blank. -/
theorem trim_cons {c : Char} (visible : isBlank c = false) (cs : List Char) :
    trim (c :: cs) = c :: dropEndWhile isBlank cs := by
  rw [trim, stripWhile, List.dropWhile_cons_of_neg (by simp [visible])]
  exact dropEndWhile_append visible [] cs

theorem trim_append_cons {c : Char} (first : before.head?.any isBlank = false)
    (visible : isBlank c = false) (cs : List Char) :
    trim (before ++ c :: cs) = before ++ trim (c :: cs) := by
  cases before with
  | nil => rfl
  | cons d before =>
    rw [List.cons_append, trim_cons first, dropEndWhile_append visible, trim_cons visible,
      List.cons_append]

/-- Behind a text without a blank at its end, a text without blanks at its ends is not trimmed. -/
theorem trim_append (front : endsBlank before = false) (first : after.head?.any isBlank = false)
    (last : endsBlank after = false) : trim (before ++ after) = trim before ++ after := by
  have kept : after.dropWhile isBlank = after := by
    cases after with
    | nil => rfl
    | cons c after => exact List.dropWhile_cons_of_neg (by simpa using first)
  have dropped : (before ++ after).dropWhile isBlank = before.dropWhile isBlank ++ after := by
    rw [List.dropWhile_append]
    split
    · rename_i empty
      rw [kept, List.isEmpty_iff.mp empty, List.nil_append]
    · rfl
  have behind : endsBlank (before.dropWhile isBlank) = false :=
    endsBlank_of_suffix (List.dropWhile_suffix isBlank) front
  have whole : endsBlank (before.dropWhile isBlank ++ after) = false := by
    by_cases filled : after = []
    · rwa [filled, List.append_nil]
    · rwa [endsBlank_append filled]
  rw [trim, trim, stripWhile, stripWhile, dropped, dropEndWhile_of_last whole,
    dropEndWhile_of_last behind]

theorem not_endsBlank_trim (cs : List Char) : endsBlank (trim cs) = false :=
  last_dropEndWhile isBlank _

theorem trim_trim (cs : List Char) : trim (trim cs) = trim cs := by
  refine trim_of_ends ?_ (not_endsBlank_trim cs)
  have stops := List.head?_dropWhile_not isBlank cs
  rcases inner : cs.dropWhile isBlank with _ | ⟨c, rest⟩
  · simp [trim, stripWhile, inner, dropEndWhile]
  · have visible : isBlank c = false := by simpa [inner] using stops
    simpa [trim, stripWhile, inner, visible] using congrArg (·.head?.any isBlank)
      (dropEndWhile_append visible [] rest)

theorem mem_of_mem_trim {c : Char} (mem : c ∈ trim cs) : c ∈ cs := by
  rw [trim, stripWhile, dropEndWhile, List.mem_reverse] at mem
  have inside := (List.dropWhile_suffix isBlank).mem mem
  exact (List.dropWhile_suffix isBlank).mem (List.mem_reverse.mp inside)

theorem length_trim_le (cs : List Char) : (trim cs).length ≤ cs.length := by
  rw [trim, stripWhile, dropEndWhile, List.length_reverse]
  have behind := (List.dropWhile_suffix (l := (cs.dropWhile isBlank).reverse) isBlank).length_le
  have front := (List.dropWhile_suffix (l := cs) isBlank).length_le
  rw [List.length_reverse] at behind
  exact Nat.le_trans behind front

end CatalogFeeds.Text
