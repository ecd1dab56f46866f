import CatalogFeeds.Number.Power
import CatalogFeeds.Text.Ascii
import CatalogFeeds.Text.Blank
import Mathlib.Data.List.Basic
/-!
Decimal numerals.

* `natural?_digits` — a number is read back from its digits.
* `ofDigits_paddedDigits`, `length_paddedDigits` — filling up with zeros does not change the number,
  and a number that fits its width takes up all of it.
-/

namespace CatalogFeeds.Text

variable {c : Char} {n : Nat}

theorem digits_ne_nil (n : Nat) : digits n ≠ [] :=
  Nat.toDigits_ne_nil

theorem isDigit_of_mem_digits (mem : c ∈ digits n) : isDigit c = true := by
  have digit := Nat.isDigit_of_mem_toDigits (by decide) (by decide) mem
  simpa [Char.isDigit, isDigit, Char.le_def] using digit

theorem exists_digits (n : Nat) : ∃ d ds, digits n = d :: ds ∧ ∀ c ∈ d :: ds, isDigit c = true := by
  obtain ⟨d, ds, written⟩ := List.exists_cons_of_ne_nil (digits_ne_nil n)
  exact ⟨d, ds, written, fun c mem => isDigit_of_mem_digits (written ▸ mem)⟩

/-- Digits are ASCII characters between two others. -/
theorem toNat_of_isDigit (digit : isDigit c = true) : 48 ≤ c.toNat ∧ c.toNat ≤ 57 := by
  simp only [isDigit, Bool.and_eq_true, decide_eq_true_eq] at digit
  exact digit

theorem ne_of_isDigit {d : Char} (digit : isDigit c = true) (other : isDigit d = false) :
    c ≠ d := by
  rintro rfl
  simp [other] at digit

theorem not_isBlank_of_isDigit (digit : isDigit c = true) : isBlank c = false := by
  have bounds := toNat_of_isDigit digit
  simp only [isBlank, Bool.or_eq_false_iff, Bool.and_eq_false_iff, decide_eq_false_iff_not,
    beq_eq_false_iff_ne]
  omega

theorem ofDigits_eq (ds : List Char) : ofDigits ds = Nat.ofDigitChars 10 ds 0 :=
  Nat.ofDigitChars_eq_foldl.symm

theorem ofDigits_digits (n : Nat) : ofDigits (digits n) = n :=
  (ofDigits_eq _).trans Nat.ofDigitChars_ten_toDigits

/-- **A number is read back from its digits.** -/
theorem natural?_digits (n : Nat) : natural? (digits n) = some n := by
  have all : (digits n).all isDigit = true :=
    List.all_eq_true.mpr fun c mem => isDigit_of_mem_digits mem
  cases own : digits n with
  | nil => exact absurd own (digits_ne_nil n)
  | cons c rest =>
    have unsigned : c ≠ '+' :=
      ne_of_isDigit (isDigit_of_mem_digits (own ▸ List.mem_cons_self)) (by decide)
    rw [own] at all
    have whole : natural? (c :: rest) = some (ofDigits (c :: rest)) := by
      simp [natural?, unsigned, all]
    rw [whole, ← own, ofDigits_digits]

/-! ### Numerals of a given width -/

variable {width : Nat}

theorem isDigit_of_mem_paddedDigits (mem : c ∈ paddedDigits width n) : isDigit c = true := by
  rcases List.mem_append.mp mem with zero | own
  · rw [List.eq_of_mem_replicate zero]
    decide
  · exact isDigit_of_mem_digits own

theorem ofDigits_paddedDigits (width n : Nat) : ofDigits (paddedDigits width n) = n := by
  rw [ofDigits_eq, paddedDigits, Nat.ofDigitChars_append, Nat.ofDigitChars_replicate_zero,
    Nat.mul_zero, ← ofDigits_eq, ofDigits_digits]

theorem width_le_length_paddedDigits (width n : Nat) :
    width ≤ (paddedDigits width n).length := by
  rw [paddedDigits, List.length_append, List.length_replicate]
  omega

/-- **A number that fits its width** takes up all of it and no more. -/
theorem length_paddedDigits (filled : 0 < width) (fits : n < Number.tenTo width) :
    (paddedDigits width n).length = width := by
  have short : (digits n).length ≤ width :=
    (Nat.length_toDigits_le_iff (by decide) filled).mpr fits
  rw [paddedDigits, List.length_append, List.length_replicate, Nat.sub_add_cancel short]

end CatalogFeeds.Text
