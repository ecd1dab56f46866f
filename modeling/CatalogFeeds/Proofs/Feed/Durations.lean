import CatalogFeeds.Feed.Basic
import CatalogFeeds.Proofs.Record.ClockTime
/-!
Durations in feeds.

A feed shows a duration as hours, minutes and seconds, and the hours take as many digits as they
need. That is a clock time, which catalogues may write as well, and so what a feed shows can be read
by the rules for what catalogues send.

* `isSixtieth_paddedDigits` — a number below sixty has two digits.
* `isClockTime_durationText` — the text of a duration is a clock time for it.
* `durations_read_back` — it is read as that duration, and it has three fields.
-/

namespace CatalogFeeds.Feed

open CatalogFeeds.Text

/-- Two digits for a number below sixty. -/
structure IsSixtieth (ds : List Char) (n : Nat) : Prop where
  two : ds.length = 2
  digits : ∀ d ∈ ds, isDigit d = true
  value : Nat.ofDigitChars 10 ds 0 = n
  below : n < 60

variable {n : Nat}

/-! ### Fields -/

theorem isSixtieth_paddedDigits (below : n < 60) : IsSixtieth (paddedDigits 2 n) n where
  two := length_paddedDigits (by decide) (Nat.lt_trans below (by decide))
  digits _ := isDigit_of_mem_paddedDigits
  value := (ofDigits_eq _).symm.trans (ofDigits_paddedDigits 2 n)
  below := below

theorem isSixtieth_minutes (n : Nat) :
    IsSixtieth (paddedDigits 2 (n / 60 % 60)) (n / 60 % 60) := by
  apply isSixtieth_paddedDigits
  omega

theorem isSixtieth_seconds (n : Nat) : IsSixtieth (paddedDigits 2 (n % 60)) (n % 60) := by
  apply isSixtieth_paddedDigits
  omega

theorem IsSixtieth.isField {ds : List Char} (h : IsSixtieth ds n) : IsField ds n := by
  have filled : ds ≠ [] := List.ne_nil_of_length_pos (by rw [h.two]; decide)
  have numeral : IsNumeral ds n := h.value ▸ .plain filled h.digits
  exact ⟨[], ds, [], by simp, by simp, by simp, numeral⟩

theorem isField_digits (n : Nat) : IsField (digits n) n := by
  have numeral : IsNumeral (digits n) n := natural?_eq_some_iff.mp (natural?_digits n)
  exact ⟨[], digits n, [], by simp, by simp, by simp, numeral⟩

/-! ### The whole text -/

theorem toList_durationText (n : Nat) :
    (durationText n).toList = digits (n / 3600) ++ ':' :: paddedDigits 2 (n / 60 % 60) ++
      ':' :: paddedDigits 2 (n % 60) :=
  String.toList_ofList

/-- **The text of a duration is a clock time for it.** -/
theorem isClockTime_durationText (n : Nat) :
    IsClockTime (durationText n).toList [n / 3600, n / 60 % 60, n % 60] n := by
  have sum : (n / 3600 * 60 + n / 60 % 60) * 60 + n % 60 = n := by omega
  have time := IsClockTime.hours (isField_digits (n / 3600)) (isSixtieth_minutes n).isField
    (isSixtieth_seconds n).isField
  rwa [sum, ← toList_durationText] at time

theorem trim_durationText (n : Nat) : trim (durationText n).toList = (durationText n).toList := by
  have visible : ∀ c ∈ (durationText n).toList, isBlank c = false := by
    intro c mem
    simp only [toList_durationText, List.mem_append, List.mem_cons] at mem
    rcases mem with (hour | rfl | minute) | rfl | second
    · exact not_isBlank_of_isDigit (isDigit_of_mem_digits hour)
    · decide
    · exact not_isBlank_of_isDigit (isDigit_of_mem_paddedDigits minute)
    · decide
    · exact not_isBlank_of_isDigit (isDigit_of_mem_paddedDigits second)
  have alone : trim ([] ++ (durationText n).toList ++ []) = (durationText n).toList := by
    apply trim_of_blanks_around visible <;> simp
  simpa using alone

theorem durationText_injective : Function.Injective durationText := by
  intro m n same
  exact (isClockTime_durationText m).unique (same ▸ isClockTime_durationText n)

/-- **Durations read back.** The text that a feed shows for a number of seconds is read as that
number, as long as a word of 64 bits holds it, and so no two durations have one text. The text has
three fields between colons: the hours without zeros in front, then minutes and seconds in two digits
each that stand for less than sixty, and together they come to the number of seconds. -/
theorem durations_read_back :
    (∀ n, FieldType.seconds.coerce (.string (durationText n)) =
      if n < Number.twoTo 64 then some (.ofNat n) else none) ∧
    Function.Injective durationText ∧
    ∀ n, ∃ h m s minutes seconds,
      splitAll ':' (durationText n).toList = [digits h, minutes, seconds] ∧
        IsSixtieth minutes m ∧ IsSixtieth seconds s ∧ (h * 60 + m) * 60 + s = n := by
  refine ⟨?_, durationText_injective, ?_⟩
  · intro n
    have time := isClockTime_durationText n
    rw [← trim_durationText] at time
    have read : FieldType.seconds.coerce (.string (durationText n)) =
        (seconds? (durationText n)).map Json.ofNat := rfl
    rw [read, seconds?_of_isClockTime time]
    split
    · rename_i small
      exact (if_pos small).symm
    · rename_i large
      exact (if_neg large).symm
  · intro n
    have minutes := isSixtieth_minutes n
    have seconds := isSixtieth_seconds n
    refine ⟨n / 3600, n / 60 % 60, n % 60, _, _, ?_, minutes, seconds, by omega⟩
    rw [toList_durationText, splitAll_append, splitAll_append,
      splitAll_of_notMem (isField_digits _).colon_notMem,
      splitAll_of_notMem minutes.isField.colon_notMem,
      splitAll_of_notMem seconds.isField.colon_notMem]
    rfl

/-- The longest duration. -/
example : durationText 18446744073709551615 = "5124095576030431:00:15" := by decide +kernel

end CatalogFeeds.Feed
