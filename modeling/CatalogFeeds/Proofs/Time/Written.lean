import CatalogFeeds.Proofs.Time.Mail
/-!
Instants that are written and read back.

* `Fields.Denotes.isDated` — what is read in any form can be written: it lies within the range of
  dates, and in a leap second only at the end of a minute.
* `relaxed?_textWithOffset`, `relaxed?_text` — what is written is read back by the relaxed reader.
-/

namespace CatalogFeeds.Time

open CatalogFeeds.Text

/-- An instant that has a date and a time of day. -/
structure Instant.IsDated (t : Instant) : Prop where
  first : firstDay ≤ t.day
  last : t.day ≤ lastDay
  leap : t.nanoseconds < 1000000000 ∨ t.nanoseconds < 2000000000 ∧ t.secondOfDay % 60 = 59

variable {cs rest zone : List Char} {t : Instant} {n width : Nat}

/-! ### What can be written -/

theorem Fields.Denotes.isDated {fields : Fields} (h : fields.Denotes t)
    (minutes : fields.offset % 60 = 0) (fraction : fields.nanosecond < 1000000000) :
    t.IsDated := by
  obtain ⟨first, last⟩ := h.range
  obtain ⟨-, -, latest⟩ := h.clock
  obtain ⟨days, -, -, rfl⟩ := h.instant
  refine ⟨first, last, ?_⟩
  simp only [momentOn, Instant.secondOfDay]
  omega

theorem IsInternetTime.isDated (h : IsInternetTime cs t) : t.IsDated := by
  cases h with
  | intro _ _ _ _ _ _ _ fractions offset denotes =>
    exact denotes.isDated offset.minutes fractions.lt

theorem IsMailTime.isDated (h : IsMailTime cs t) : t.IsDated := by
  cases h with
  | intro _ _ _ _ _ _ _ _ _ _ _ _ _ _ zones _ denotes =>
    exact denotes.isDated zones.minutes (by simp)

theorem ofSeconds?_eq_some_iff {seconds : Int} : Instant.ofSeconds? seconds = some t ↔
    t = ⟨seconds, 0⟩ ∧ firstDay ≤ t.day ∧ t.day ≤ lastDay := by
  simp only [Instant.ofSeconds?, Option.ite_none_right_eq_some, Bool.and_eq_true,
    decide_eq_true_eq, Option.some.injEq]
  constructor
  · rintro ⟨⟨first, last⟩, rfl⟩
    refine ⟨rfl, ?_, ?_⟩ <;> simp only [Instant.day] <;> omega
  · rintro ⟨rfl, first, last⟩
    simp only [Instant.day] at first last
    exact ⟨⟨by omega, by omega⟩, rfl⟩

/-! ### Pieces that are written -/

theorem isNumber_paddedDigits {least : Nat} {most : Option Nat} (short : least ≤ width)
    (long : ∀ bound, most = some bound → (paddedDigits width n).length ≤ bound) :
    IsNumber least most (paddedDigits width n) n where
  digits := fun _ mem => isDigit_of_mem_paddedDigits mem
  least := short.trans (width_le_length_paddedDigits width n)
  most := long
  value := by rw [← ofDigits_eq, ofDigits_paddedDigits]

/-- A number that is filled up with zeros does not begin with a blank or a sign. -/
theorem stops_paddedDigits {p : Char → Bool} (filled : 0 < width)
    (others : ∀ d, isDigit d = true → p d = false) (n : Nat) (rest : List Char) :
    Stops p (paddedDigits width n ++ rest) := by
  have own : IsNumber width none (paddedDigits width n) n :=
    isNumber_paddedDigits le_rfl (by simp)
  exact own.stops filled others rest

/-- A field of two digits is read back. -/
theorem looseField_paddedDigits {low high : Nat} (least : low ≤ n) (most : n ≤ high)
    (two : high < 100) (stops : Stops isDigit rest) :
    looseField low high (paddedDigits 2 n ++ rest) = .ok (n, rest) := by
  have length : (paddedDigits 2 n).length = 2 :=
    length_paddedDigits (by decide) (most.trans_lt two)
  have small : high < Number.signedLimit := two.trans (by decide)
  have visible : Stops isBlank (paddedDigits 2 n ++ rest) :=
    stops_paddedDigits (by decide) (fun _ => not_isBlank_of_isDigit) n rest
  rw [looseField, skipBlanks, dropWhile_of_stops visible]
  refine (numberWithin_reads 1 (some 2) low small).complete ⟨?_, least, most⟩ (.inr stops)
  exact isNumber_paddedDigits (by decide) (by simp [length])

/-- A year is read back, with or without a sign in front. -/
theorem signedYear_yearDigits {year : Int} (first : firstYear ≤ year) (last : year ≤ lastYear)
    (stops : Stops isDigit rest) :
    signedYear (Instant.yearDigits year ++ rest) = .ok (year, rest) := by
  have low : -262143 ≤ year := first
  have high : year ≤ 262142 := last
  have limit : (Number.twoTo 31 : Nat) = 2147483648 := by decide
  have inside : ¬ (year < -(Number.twoTo 31 : Int) ∨ (Number.twoTo 31 : Int) ≤ year) := by omega
  have signed : number 1 none (paddedDigits 4 year.natAbs ++ rest) = .ok (year.natAbs, rest) := by
    refine (number_reads 1 none).complete ⟨?_, ?_⟩ (.inr stops)
    · exact isNumber_paddedDigits (by decide) (by simp)
    · exact lt_trans (show year.natAbs < 262144 by omega) (by decide)
  refine bind_eq_ok_iff.mpr ⟨(year, rest), ?_, guard_eq_ok_iff.mpr ⟨by simpa using inside, rfl⟩⟩
  unfold Instant.yearDigits
  by_cases four : 0 ≤ year ∧ year ≤ 9999
  · have length : (paddedDigits 4 year.toNat).length = 4 :=
      length_paddedDigits (by decide) (show year.toNat < 10000 by omega)
    have read : number 1 (some 4) (paddedDigits 4 year.toNat ++ rest) = .ok (year.toNat, rest) := by
      refine (number_reads 1 (some 4)).complete ⟨?_, ?_⟩ (.inr stops)
      · exact isNumber_paddedDigits (by decide) (by simp [length])
      · exact lt_trans (show year.toNat < 10000 by omega) (by decide)
    have visible : Stops isBlank (paddedDigits 4 year.toNat ++ rest) :=
      stops_paddedDigits (by decide) (fun _ => not_isBlank_of_isDigit) _ rest
    have unsigned : Stops (fun c => c == '-' || c == '+') (paddedDigits 4 year.toNat ++ rest) := by
      refine stops_paddedDigits (by decide) (fun d digit => ?_) _ rest
      simp [ne_of_isDigit digit (show isDigit '-' = false by decide),
        ne_of_isDigit digit (show isDigit '+' = false by decide)]
    rw [if_pos (by simpa using four), skipBlanks, dropWhile_of_stops visible]
    split
    · rename_i same
      simp [same] at unsigned
    · rename_i same
      simp [same] at unsigned
    · rw [read]
      simp [Except.map, four.1]
  · rw [if_neg (by simpa using four)]
    by_cases negative : year < 0
    · rw [if_pos negative, List.cons_append, skipBlanks, List.dropWhile_cons_of_neg (by decide)]
      simp only [signed, Except.map]
      rw [show -(year.natAbs : Int) = year by omega]
    · rw [if_neg negative, List.cons_append, skipBlanks, List.dropWhile_cons_of_neg (by decide)]
      simp only [signed, Except.map]
      rw [show (year.natAbs : Int) = year by omega]

/-- A fraction is written with as many digits as it needs. -/
theorem isFraction_fractionDigits (small : n < 1000000000) :
    IsFraction (Instant.fractionDigits n) n := by
  have scaled : ∀ width scale m, n = m * scale → 0 < width →
      scale * Number.tenTo width = Number.tenTo 9 → m < Number.tenTo width →
      IsFraction ('.' :: paddedDigits width m) n := by
    intro width scale m same filled whole fits
    have own : IsNumber 1 none (paddedDigits width m) m :=
      isNumber_paddedDigits filled (by simp)
    have length := length_paddedDigits filled fits
    have value := IsFraction.digits own
    rw [length, ← whole, ← Nat.mul_assoc, Nat.mul_div_cancel _ (tenTo_pos width), ← same] at value
    exact value
  unfold Instant.fractionDigits
  by_cases zero : n = 0
  · subst zero
    exact .none
  rw [if_neg (by simpa using zero)]
  by_cases milli : n % 1000000 = 0
  · rw [if_pos (by simpa using milli)]
    exact scaled 3 1000000 (n / 1000000) (by omega) (by decide) (by decide)
      (show n / 1000000 < 1000 by omega)
  rw [if_neg (by simpa using milli)]
  by_cases micro : n % 1000 = 0
  · rw [if_pos (by simpa using micro)]
    exact scaled 6 1000 (n / 1000) (by omega) (by decide) (by decide)
      (show n / 1000 < 1000000 by omega)
  rw [if_neg (by simpa using micro)]
  exact scaled 9 1 n (by omega) (by decide) (by decide) small

/-! ### Reading back -/

/-- The date and the time of day that are written stand for the instant. -/
theorem denotes_dateTime (dated : t.IsDated) :
    Fields.Denotes ⟨(Date.ofDays t.day).year, (Date.ofDays t.day).month, (Date.ofDays t.day).day,
      t.secondOfDay / 3600, t.secondOfDay / 60 % 60, t.secondOfMinute,
      t.nanoseconds % 1000000000, 0, none⟩ t := by
  obtain ⟨first, last, leap⟩ := dated
  have clock : t.secondOfDay < 86400 ∧ t.seconds = t.day * 86400 + t.secondOfDay := by
    simp only [Instant.secondOfDay, Instant.day]
    omega
  obtain ⟨small, seconds⟩ := clock
  have valid := (isValid_ofDays_iff t.day).mpr ⟨first, last⟩
  obtain ⟨firstYear, lastYear, there⟩ := Date.isValid_iff.mp valid
  have counted : IsDayNumber (Date.ofDays t.day) t.day :=
    isDayNumber_iff.mpr ⟨there, days_ofDays t.day⟩
  refine ⟨⟨?_, ?_, ?_⟩, by simp, ⟨firstYear, lastYear⟩, ⟨t.day, counted, by simp, ?_⟩, first, last⟩
  · show t.secondOfDay / 3600 ≤ 23
    omega
  · show t.secondOfDay / 60 % 60 ≤ 59
    omega
  · show t.secondOfDay % 60 + t.nanoseconds / 1000000000 ≤ 60
    omega
  · obtain ⟨total, nanoseconds⟩ := t
    simp only [Fields.momentOn, Instant.secondOfMinute, Instant.mk.injEq] at *
    omega

/-- **Date and time of day are read back**, with an offset behind them that means universal
time. -/
theorem relaxed?_dateTimeDigits (dated : t.IsDated) (stops : Stops isDigit zone)
    (noPoint : Stops (· == '.') zone) (read : looseOffset (skipBlanks zone) = .ok (0, [])) :
    Instant.relaxed? (t.dateTimeDigits ++ zone) = .ok t := by
  have denotes := denotes_dateTime dated
  obtain ⟨⟨firstMonth, lastMonth⟩, firstDate, lastDate⟩ := denotes.date
  obtain ⟨lastHour, lastMinute, latest⟩ := denotes.clock
  obtain ⟨firstYear, lastYear⟩ := denotes.years
  have dash : ∀ rest, looseCharacter '-' ('-' :: rest) = .ok rest :=
    looseCharacter_complete (List.forall_mem_nil _) (by decide)
  have colon : ∀ rest, looseCharacter ':' (':' :: rest) = .ok rest :=
    looseCharacter_complete (List.forall_mem_nil _) (by decide)
  have fraction := isFraction_fractionDigits (Nat.mod_lt t.nanoseconds (by decide : 0 < 1000000000))
  have fractionRead := fraction_reads.complete fraction ⟨stops, noPoint⟩
  simp only [Instant.dateTimeDigits, Instant.clockDigits, List.append_assoc, List.cons_append,
    List.nil_append]
  refine bind_eq_ok_iff.mpr ⟨_, signedYear_yearDigits firstYear lastYear rfl, ?_⟩
  refine bind_eq_ok_iff.mpr ⟨_, dash _, ?_⟩
  refine bind_eq_ok_iff.mpr
    ⟨_, looseField_paddedDigits firstMonth lastMonth (by decide) rfl, ?_⟩
  refine bind_eq_ok_iff.mpr ⟨_, dash _, ?_⟩
  refine bind_eq_ok_iff.mpr
    ⟨_, looseField_paddedDigits firstDate lastDate (by decide) rfl, ?_⟩
  refine bind_eq_ok_iff.mpr ⟨_, dateTimeSeparator_eq_ok_iff.mpr ⟨'T', .inl rfl, rfl⟩, ?_⟩
  refine bind_eq_ok_iff.mpr
    ⟨_, looseField_paddedDigits (Nat.zero_le _) lastHour (by decide) rfl, ?_⟩
  refine bind_eq_ok_iff.mpr ⟨_, colon _, ?_⟩
  refine bind_eq_ok_iff.mpr
    ⟨_, looseField_paddedDigits (Nat.zero_le _) lastMinute (by decide) rfl, ?_⟩
  refine bind_eq_ok_iff.mpr ⟨_, colon _, ?_⟩
  refine bind_eq_ok_iff.mpr
    ⟨_, looseField_paddedDigits (Nat.zero_le _) latest (by decide) (fraction.stops stops), ?_⟩
  refine bind_eq_ok_iff.mpr ⟨_, fractionRead, ?_⟩
  refine bind_eq_ok_iff.mpr ⟨_, read, ?_⟩
  exact (Fields.instant_eq_ok_iff denotes.clock).mpr denotes

/-- **What is written with an offset is read back.** -/
theorem relaxed?_textWithOffset (dated : t.IsDated) :
    Instant.relaxed? t.textWithOffset.toList = .ok t := by
  rw [Instant.textWithOffset, String.toList_ofList]
  exact relaxed?_dateTimeDigits dated rfl rfl (by decide)

/-- **What is written with a `Z` is read back.** -/
theorem relaxed?_text (dated : t.IsDated) : Instant.relaxed? t.text.toList = .ok t := by
  rw [Instant.text, String.toList_ofList]
  exact relaxed?_dateTimeDigits dated rfl rfl (by decide)

end CatalogFeeds.Time
