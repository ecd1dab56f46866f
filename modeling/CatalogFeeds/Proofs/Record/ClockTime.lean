import CatalogFeeds.Proofs.Text.Digits
import CatalogFeeds.Proofs.Text.Split
import CatalogFeeds.Record.Coerce
import Mathlib.Data.List.Forall2
import Mathlib.Data.List.TakeWhile
/-!
Clock times.

A duration is written as a number of seconds or as a clock time. It is read in words of 64 bits,
part by part, and the reading stops where a word is too small. Since no part makes the sum smaller,
that happens only if the duration itself is too long for a word.

* `natural?_eq_some_iff`, `isField_iff` — which texts are read as numbers.
* `foldlM_addPart?_eq_some_iff` — adding up parts in words is adding them up, as far as the sum
  fits.
* `seconds?_eq_some_iff` — a text is read as the number of seconds that it is written for.
* `seconds_exact` — the same for the values of fields, and what is refused.
-/

namespace CatalogFeeds

open CatalogFeeds.Text

/-! ### How durations are written -/

/-- A numeral: decimal digits, perhaps behind a plus sign. -/
inductive IsNumeral : List Char → Nat → Prop
  | plain {ds : List Char} (filled : ds ≠ []) (digits : ∀ d ∈ ds, isDigit d = true) :
    IsNumeral ds (Nat.ofDigitChars 10 ds 0)
  | signed {ds : List Char} (filled : ds ≠ []) (digits : ∀ d ∈ ds, isDigit d = true) :
    IsNumeral ('+' :: ds) (Nat.ofDigitChars 10 ds 0)

/-- A numeral that may have blanks around it. -/
def IsField (cs : List Char) (n : Nat) : Prop :=
  ∃ front numeral back, cs = front ++ numeral ++ back ∧ (∀ c ∈ front, isBlank c = true) ∧
    (∀ c ∈ back, isBlank c = true) ∧ IsNumeral numeral n

/-- A number of seconds, or minutes or hours with what is left of them, behind colons. The fields
are listed beside the seconds that they come to. -/
inductive IsClockTime : List Char → List Nat → Nat → Prop
  | seconds {a : List Char} {s : Nat} (own : IsField a s) : IsClockTime a [s] s
  | minutes {a b : List Char} {m s : Nat} (own : IsField a m) (rest : IsField b s) :
    IsClockTime (a ++ ':' :: b) [m, s] (m * 60 + s)
  | hours {a b c : List Char} {h m s : Nat} (own : IsField a h) (rest : IsField b m)
    (last : IsField c s) :
    IsClockTime (a ++ ':' :: b ++ ':' :: c) [h, m, s] ((h * 60 + m) * 60 + s)

variable {cs : List Char} {n : Nat}

/-! ### Numerals -/

/-- **A text is read as a number** exactly if it is a numeral for it. -/
theorem natural?_eq_some_iff : natural? cs = some n ↔ IsNumeral cs n := by
  constructor
  · intro h
    unfold natural? at h
    split at h
    · rename_i rest
      simp only [Option.ite_none_right_eq_some, Bool.and_eq_true, List.all_eq_true] at h
      obtain ⟨⟨filled, digits⟩, value⟩ := h
      rw [← Option.some.inj value, ofDigits_eq]
      exact .signed (by simpa using filled) digits
    · simp only [Option.ite_none_right_eq_some, Bool.and_eq_true, List.all_eq_true] at h
      obtain ⟨⟨filled, digits⟩, value⟩ := h
      rw [← Option.some.inj value, ofDigits_eq]
      exact .plain (by simpa using filled) digits
  · rintro (⟨filled, digits⟩ | ⟨filled, digits⟩)
    · obtain ⟨c, rest, rfl⟩ := List.exists_cons_of_ne_nil filled
      have unsigned : c ≠ '+' := ne_of_isDigit (digits c List.mem_cons_self) (by decide)
      have all : (c :: rest).all isDigit = true := List.all_eq_true.mpr digits
      simp [natural?, unsigned, all, ofDigits_eq]
    · have all : _ = true := List.all_eq_true.mpr digits
      simp [natural?, filled, all, ofDigits_eq]

theorem word?_eq_some_iff : word? cs = some n ↔ IsNumeral cs n ∧ n < Number.wordLimit := by
  rw [word?, Option.bind_eq_some_iff]
  constructor
  · rintro ⟨m, read, small⟩
    obtain ⟨bound, same⟩ := Option.ite_none_right_eq_some.mp small
    obtain rfl := Option.some.inj same
    exact ⟨natural?_eq_some_iff.mp read, bound⟩
  · rintro ⟨numeral, bound⟩
    exact ⟨n, natural?_eq_some_iff.mpr numeral, if_pos bound⟩

theorem IsNumeral.unique {m : Nat} (h : IsNumeral cs n) (h' : IsNumeral cs m) : n = m :=
  Option.some.inj <|
    (natural?_eq_some_iff.mpr h).symm.trans (natural?_eq_some_iff.mpr h')

/-- A numeral has digits only, and perhaps a plus sign. -/
theorem IsNumeral.mem {c : Char} (h : IsNumeral cs n) (mem : c ∈ cs) :
    c = '+' ∨ isDigit c = true := by
  cases h with
  | plain _ digits => exact .inr (digits c mem)
  | signed _ digits => exact (List.mem_cons.mp mem).imp_right (digits c)

theorem IsNumeral.visible {c : Char} (h : IsNumeral cs n) (mem : c ∈ cs) : isBlank c = false := by
  rcases h.mem mem with rfl | digit
  · decide
  · exact not_isBlank_of_isDigit digit

/-! ### Fields -/

/-- What trimming drops. -/
theorem exists_blanks_around_trim (cs : List Char) :
    ∃ front back, cs = front ++ trim cs ++ back ∧ (∀ c ∈ front, isBlank c = true) ∧
      ∀ c ∈ back, isBlank c = true := by
  refine ⟨cs.takeWhile isBlank, ((cs.dropWhile isBlank).reverse.takeWhile isBlank).reverse, ?_,
    fun c mem => List.mem_takeWhile_imp mem,
    fun c mem => List.mem_takeWhile_imp (List.mem_reverse.mp mem)⟩
  rw [List.append_assoc, trim, stripWhile, dropEndWhile, ← List.reverse_append,
    List.takeWhile_append_dropWhile, List.reverse_reverse, List.takeWhile_append_dropWhile]

/-- Blanks around a text without blanks are dropped. -/
theorem trim_of_blanks_around {front back : List Char} (visible : ∀ c ∈ cs, isBlank c = false)
    (before : ∀ c ∈ front, isBlank c = true) (after : ∀ c ∈ back, isBlank c = true) :
    trim (front ++ cs ++ back) = cs := by
  rw [List.append_assoc, trim, stripWhile, List.dropWhile_append_of_pos before]
  cases cs with
  | nil =>
    have none : back.dropWhile isBlank = [] := List.dropWhile_eq_nil_iff.mpr after
    rw [List.nil_append, none]
    rfl
  | cons c cs =>
    have last : (c :: cs).reverse.head?.any isBlank = false := by
      cases first : (c :: cs).reverse.head? with
      | none => rfl
      | some d => exact visible d (List.mem_reverse.mp (List.mem_of_head? first))
    have behind : ∀ d ∈ back.reverse, isBlank d = true :=
      fun d mem => after d (List.mem_reverse.mp mem)
    rw [List.cons_append, List.dropWhile_cons_of_neg (by simp [visible c]), ← List.cons_append,
      dropEndWhile, List.reverse_append, List.dropWhile_append_of_pos behind, ← dropEndWhile,
      dropEndWhile_of_last (by rwa [List.getLast?_eq_head?_reverse])]

/-- **A field is read** as the numeral that trimming leaves of it. -/
theorem isField_iff : IsField cs n ↔ IsNumeral (trim cs) n := by
  constructor
  · rintro ⟨front, numeral, back, rfl, before, after, own⟩
    rwa [trim_of_blanks_around (fun c => own.visible) before after]
  · intro own
    obtain ⟨front, back, whole, before, after⟩ := exists_blanks_around_trim cs
    exact ⟨front, trim cs, back, whole, before, after, own⟩

theorem IsField.unique {m : Nat} (h : IsField cs n) (h' : IsField cs m) : n = m :=
  (isField_iff.mp h).unique (isField_iff.mp h')

theorem IsField.of_trim (h : IsField (trim cs) n) : IsField cs n := by
  obtain ⟨front, back, whole, before, after⟩ := exists_blanks_around_trim cs
  obtain ⟨front', numeral, back', inner, before', after', own⟩ := h
  refine ⟨front ++ front', numeral, back' ++ back, ?_, List.forall_mem_append.mpr ⟨before, before'⟩,
    List.forall_mem_append.mpr ⟨after', after⟩, own⟩
  rw [whole, inner]
  simp only [List.append_assoc]

theorem IsField.colon_notMem (h : IsField cs n) : ':' ∉ cs := by
  obtain ⟨front, numeral, back, rfl, before, after, own⟩ := h
  intro mem
  rcases List.mem_append.mp mem with mem | mem
  · rcases List.mem_append.mp mem with mem | mem
    · exact absurd (before ':' mem) (by decide)
    · rcases own.mem mem with same | digit
      · exact absurd same (by decide)
      · exact absurd digit (by decide)
  · exact absurd (after ':' mem) (by decide)

/-! ### Fields one after another -/

/-- A sum with fields behind it, each worth sixty of the next. -/
def clockSum (total : Nat) (fields : List Nat) : Nat :=
  fields.foldl (fun total field => total * 60 + field) total

/-- **The fields of a clock time** are what stands between its colons. -/
theorem isClockTime_iff {fields : List Nat} :
    IsClockTime cs fields n ↔
      List.Forall₂ IsField (splitAll ':' cs) fields ∧ fields.length ≤ 3 ∧
        n = clockSum 0 fields := by
  constructor
  · rintro (own | ⟨own, rest⟩ | ⟨own, rest, last⟩)
    · rw [splitAll_of_notMem own.colon_notMem]
      simp [own, clockSum]
    · rw [splitAll_append, splitAll_of_notMem own.colon_notMem,
        splitAll_of_notMem rest.colon_notMem]
      simp [own, rest, clockSum]
    · rw [splitAll_append, splitAll_append, splitAll_of_notMem own.colon_notMem,
        splitAll_of_notMem rest.colon_notMem, splitAll_of_notMem last.colon_notMem]
      simp [own, rest, last, clockSum]
  · rintro ⟨parts, few, rfl⟩
    have whole : ledBy ':' (splitAll ':' cs) = ':' :: cs := ledBy_splitAll cs
    obtain ⟨a, others, split⟩ := List.exists_cons_of_ne_nil (splitAll_ne_nil ':' cs)
    rw [split] at parts whole
    obtain rfl : a ++ ledBy ':' others = cs := (List.cons.inj whole).2
    cases parts with
    | cons own later =>
      rcases later with - | ⟨rest, - | ⟨last, - | -⟩⟩
      · simpa [clockSum] using IsClockTime.seconds own
      · simpa [clockSum] using IsClockTime.minutes own rest
      · simpa [clockSum] using IsClockTime.hours own rest last
      · simp only [List.length_cons] at few
        omega

theorem IsClockTime.unique {fields fields' : List Nat} {m : Nat} (h : IsClockTime cs fields n)
    (h' : IsClockTime cs fields' m) : n = m := by
  obtain ⟨parts, -, rfl⟩ := isClockTime_iff.mp h
  obtain ⟨parts', -, rfl⟩ := isClockTime_iff.mp h'
  have one : Relator.RightUnique IsField := fun _ _ _ => IsField.unique
  have same : fields = fields' := one.forall₂ parts parts'
  rw [same]

theorem IsClockTime.isField_of_single {s : Nat} (h : IsClockTime cs [s] n) : IsField cs n := by
  cases h with
  | seconds own => exact own

/-- Adding a field makes no sum smaller. -/
theorem le_clockSum (fields : List Nat) (total : Nat) : total ≤ clockSum total fields := by
  induction fields generalizing total with
  | nil => exact Nat.le_refl total
  | cons field fields ih =>
    have more : total ≤ total * 60 + field := by omega
    exact more.trans (ih _)

theorem le_clockSum_of_mem {fields : List Nat} {field : Nat} (mem : field ∈ fields)
    (total : Nat) : field ≤ clockSum total fields := by
  induction fields generalizing total with
  | nil => simp at mem
  | cons first fields ih =>
    rcases List.mem_cons.mp mem with rfl | later
    · have more : field ≤ total * 60 + field := by omega
      exact more.trans (le_clockSum fields _)
    · exact ih later _

/-! ### Sums in words -/

/-- Adds a part to a sum, as far as words hold both. -/
def addPart? (total : Nat) (part : List Char) : Option Nat := do
  let n ← word? (trim part)
  let sum := total * 60 + n
  if sum < Number.wordLimit then some sum else none

theorem clockSeconds?_eq (parts : List (List Char)) :
    clockSeconds? parts = parts.foldlM addPart? 0 :=
  rfl

theorem addPart?_eq_some_iff {total : Nat} {part : List Char} :
    addPart? total part = some n ↔
      ∃ field, IsField part field ∧ total * 60 + field = n ∧ n < Number.wordLimit := by
  simp only [addPart?, Option.bind_eq_bind, Option.bind_eq_some_iff, word?_eq_some_iff,
    ← isField_iff, Option.ite_none_right_eq_some, Option.some.injEq]
  constructor
  · rintro ⟨field, ⟨own, -⟩, fits, rfl⟩
    exact ⟨field, own, rfl, fits⟩
  · rintro ⟨field, own, rfl, fits⟩
    exact ⟨field, ⟨own, by omega⟩, fits, rfl⟩

/-- **Adding up parts in words** is adding up their numbers, as far as the whole sum fits: no step
on the way to it is larger. -/
theorem foldlM_addPart?_eq_some_iff {parts : List (List Char)} {total : Nat}
    (small : total < Number.wordLimit) :
    parts.foldlM addPart? total = some n ↔ ∃ fields, List.Forall₂ IsField parts fields ∧
      clockSum total fields = n ∧ n < Number.wordLimit := by
  induction parts generalizing total with
  | nil =>
    simp only [List.foldlM_nil, List.forall₂_nil_left_iff, exists_eq_left, clockSum, List.foldl_nil]
    constructor
    · rintro ⟨⟩
      exact ⟨rfl, small⟩
    · rintro ⟨rfl, -⟩
      rfl
  | cons part parts ih =>
    rw [List.foldlM_cons, Option.bind_eq_bind, Option.bind_eq_some_iff]
    constructor
    · rintro ⟨sum, first, later⟩
      obtain ⟨field, own, rfl, fits⟩ := addPart?_eq_some_iff.mp first
      obtain ⟨fields, others, total, bound⟩ := (ih fits).mp later
      exact ⟨field :: fields, .cons own others, total, bound⟩
    · rintro ⟨fields, all, sum, bound⟩
      obtain ⟨field, fields, own, others, rfl⟩ := List.forall₂_cons_left_iff.mp all
      have least : total * 60 + field ≤ n := sum ▸ le_clockSum fields _
      have fits : total * 60 + field < Number.wordLimit := Nat.lt_of_le_of_lt least bound
      exact ⟨_, addPart?_eq_some_iff.mpr ⟨field, own, rfl, fits⟩,
        (ih fits).mpr ⟨fields, others, sum, bound⟩⟩

/-! ### Durations -/

/-- **A text is read as the number of seconds that it is written for**, if a word holds it. -/
theorem seconds?_eq_some_iff {text : String} :
    seconds? text = some n ↔
      (∃ fields, IsClockTime (trim text.toList) fields n) ∧ n < Number.wordLimit := by
  rw [seconds?]
  cases whole : word? (trim text.toList) with
  | some m =>
    obtain ⟨own, small⟩ := word?_eq_some_iff.mp whole
    have single : IsClockTime (trim text.toList) [m] m :=
      .seconds ⟨[], _, [], by simp, by simp, by simp, own⟩
    simp only [Option.some.injEq]
    constructor
    · rintro rfl
      exact ⟨⟨[m], single⟩, small⟩
    · rintro ⟨⟨fields, time⟩, -⟩
      exact single.unique time
  | none =>
    simp only [Option.ite_none_right_eq_some, Bool.and_eq_true, decide_eq_true_eq,
      clockSeconds?_eq, foldlM_addPart?_eq_some_iff (show 0 < Number.wordLimit by decide)]
    constructor
    · rintro ⟨⟨-, few⟩, fields, parts, rfl, small⟩
      exact ⟨⟨fields, isClockTime_iff.mpr ⟨parts, parts.length_eq ▸ few, rfl⟩⟩, small⟩
    · rintro ⟨⟨fields, time⟩, small⟩
      obtain ⟨parts, few, sum⟩ := isClockTime_iff.mp time
      refine ⟨⟨?_, parts.length_eq ▸ few⟩, fields, parts, sum.symm, small⟩
      -- A single field would have been read as a plain number.
      rw [parts.length_eq]
      rcases fields with - | ⟨s, - | ⟨m, fields⟩⟩
      · exact absurd (List.forall₂_nil_right_iff.mp parts) (splitAll_ne_nil ':' _)
      · have own := isField_iff.mp time.isField_of_single.of_trim
        rw [word?_eq_some_iff.mpr ⟨own, small⟩] at whole
        contradiction
      · simp

theorem seconds?_of_isClockTime {text : String} {fields : List Nat}
    (time : IsClockTime (trim text.toList) fields n) :
    seconds? text = if n < Number.wordLimit then some n else none := by
  split
  · rename_i small
    exact seconds?_eq_some_iff.mpr ⟨⟨fields, time⟩, small⟩
  · rename_i large
    refine Option.eq_none_iff_forall_ne_some.mpr fun m found => ?_
    obtain ⟨⟨fields', time'⟩, small⟩ := seconds?_eq_some_iff.mp found
    exact large (time.unique time' ▸ small)

/-- **Durations are exact.** A text that is a number of seconds or a clock time of two or three
numbers, each with a plus sign or without and with blanks around it or none, comes to the exact
number of seconds if that is below 2 to the power of 64. If it is not, as when one of the numbers
is not, the text comes to nothing, and so does every other text. -/
theorem seconds_exact (text : String) :
    let given := FieldType.seconds.coerce (.string text)
    (∀ fields n, IsClockTime (trim text.toList) fields n →
      given = (if n < Number.twoTo 64 then some (.ofNat n) else none) ∧
        ((∃ field ∈ fields, Number.twoTo 64 ≤ field) → given = none)) ∧
    ((¬ ∃ fields n, IsClockTime (trim text.toList) fields n) → given = none) := by
  intro given
  have read : given = (seconds? text).map Json.ofNat := rfl
  refine ⟨fun fields n time => ?_, fun other => ?_⟩
  · have whole : given = if n < Number.wordLimit then some (.ofNat n) else none := by
      rw [read, seconds?_of_isClockTime time]
      split <;> rfl
    refine ⟨whole, fun ⟨field, mem, large⟩ => ?_⟩
    obtain ⟨-, -, sum⟩ := isClockTime_iff.mp time
    have least : field ≤ n := sum ▸ le_clockSum_of_mem mem 0
    have tooLong : ¬ n < Number.wordLimit := Nat.not_lt.mpr (large.trans least)
    rw [whole, if_neg tooLong]
  · have none : seconds? text = none := by
      refine Option.eq_none_iff_forall_ne_some.mpr fun n found => ?_
      obtain ⟨⟨fields, time⟩, -⟩ := seconds?_eq_some_iff.mp found
      exact other ⟨fields, n, time⟩
    rw [read, none]
    rfl

/-- The longest duration, one that is a second too long, one with a number that is too long, and a
text with too many numbers. -/
theorem seconds_exact_longest :
    IsClockTime (trim " 307445734561825860 :+15".toList) [307445734561825860, 15]
      18446744073709551615 ∧
    FieldType.seconds.coerce (.string " 307445734561825860 :+15") =
      some (.ofNat 18446744073709551615) ∧
    IsClockTime (trim "307445734561825860:16".toList) [307445734561825860, 16]
      18446744073709551616 ∧
    FieldType.seconds.coerce (.string "307445734561825860:16") = none ∧
    IsClockTime (trim "18446744073709551616:0:0".toList) [18446744073709551616, 0, 0]
      66408278665354385817600 ∧
    FieldType.seconds.coerce (.string "18446744073709551616:0:0") = none ∧
    (¬ ∃ fields n, IsClockTime (trim "1:2:3:4".toList) fields n) ∧
    FieldType.seconds.coerce (.string "1:2:3:4") = none := by
  have field {cs : List Char} {n : Nat} (h : natural? (trim cs) = some n) : IsField cs n :=
    isField_iff.mpr (natural?_eq_some_iff.mp h)
  have last : IsClockTime (trim " 307445734561825860 :+15".toList) [307445734561825860, 15]
      18446744073709551615 :=
    .minutes (a := "307445734561825860 ".toList) (b := "+15".toList) (field (by decide))
      (field (by decide))
  have next : IsClockTime (trim "307445734561825860:16".toList) [307445734561825860, 16]
      18446744073709551616 :=
    .minutes (a := "307445734561825860".toList) (b := "16".toList) (field (by decide))
      (field (by decide))
  have long : IsClockTime (trim "18446744073709551616:0:0".toList) [18446744073709551616, 0, 0]
      66408278665354385817600 :=
    .hours (a := "18446744073709551616".toList) (b := "0".toList) (c := "0".toList)
      (field (by decide)) (field (by decide +kernel)) (field (by decide +kernel))
  have many : ¬ ∃ fields n, IsClockTime (trim "1:2:3:4".toList) fields n := by
    rintro ⟨fields, n, time⟩
    obtain ⟨parts, few, -⟩ := isClockTime_iff.mp time
    have four : (splitAll ':' (trim "1:2:3:4".toList)).length = 4 := by decide
    rw [← parts.length_eq, four] at few
    exact absurd few (by decide)
  refine ⟨last, ?_, next, ?_, long, ?_, many, (seconds_exact _).2 many⟩
  · exact ((seconds_exact _).1 _ _ last).1.trans (if_pos (by decide))
  · exact ((seconds_exact _).1 _ _ next).1.trans (if_neg (by decide))
  · exact ((seconds_exact _).1 _ _ long).2 ⟨18446744073709551616, by simp, by decide⟩

end CatalogFeeds
