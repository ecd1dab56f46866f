import CatalogFeeds.Proofs.Time.Days
import CatalogFeeds.Proofs.Time.Pieces
/-!
Instants in the strict form.

* `Fields.instant_eq_ok_iff` — which instant fields stand for.
* `internet?_eq_ok_iff` — a text is read in the strict form exactly if it is written in it.
-/

namespace CatalogFeeds.Time

open CatalogFeeds.Text

/-! ### Fields -/

/-- The instant that the time of day in some fields comes to on a day. A leap second is the second
before it, with a second more of nanoseconds. -/
def Fields.momentOn (fields : Fields) (days : Int) : Instant where
  seconds := days * 86400 + fields.hour * 3600 + fields.minute * 60 + min fields.second 59 -
    fields.offset
  nanoseconds := fields.nanosecond + (fields.second - 59) * 1000000000

/-- The instant that fields stand for: the time of day and the offset make sense, the date and the
weekday belong to one day, counted from 1 January 1970, and the range of dates is not left. -/
structure Fields.Denotes (fields : Fields) (t : Instant) : Prop where
  clock : fields.hour ≤ 23 ∧ fields.minute ≤ 59 ∧ fields.second ≤ 60
  offset : fields.offset.natAbs < 86400
  years : firstYear ≤ fields.year ∧ fields.year ≤ lastYear
  instant : ∃ days, IsDayNumber ⟨fields.year, fields.month, fields.day⟩ days ∧
    (∀ day, fields.weekday = some day → day = Time.weekday days) ∧ t = fields.momentOn days
  range : firstDay ≤ t.day ∧ t.day ≤ lastDay

/-- **Which instant fields stand for.** -/
theorem Fields.instant_eq_ok_iff {fields : Fields} {t : Instant}
    (clock : fields.hour ≤ 23 ∧ fields.minute ≤ 59 ∧ fields.second ≤ 60) :
    fields.instant = .ok t ↔ fields.Denotes t := by
  have second : (if (fields.second == 60) = true then 59 else fields.second) =
      min fields.second 59 := by
    by_cases leap : fields.second = 60
    · simp [leap]
    · simp [leap]
      omega
  have nanosecond : (if (fields.second == 60) = true then fields.nanosecond + 1000000000
      else fields.nanosecond) = fields.nanosecond + (fields.second - 59) * 1000000000 := by
    by_cases leap : fields.second = 60
    · simp [leap]
    · simp [leap]
      omega
  have agrees : ∀ days, ¬ (fields.weekday.any (· != Time.weekday days)) = true ↔
      ∀ day, fields.weekday = some day → day = Time.weekday days := by
    intro days
    cases fields.weekday <;> simp
  simp only [instant, guard_eq_ok_iff, second, nanosecond, agrees, pure, Except.pure,
    Except.ok.injEq, Bool.or_eq_true, decide_eq_true_eq, not_or, Int.not_lt, ge_iff_le,
    Nat.not_le]
  constructor
  · rintro ⟨valid, named, near, inside, rfl⟩
    obtain ⟨first, last, there⟩ := Date.isValid_iff.mp (by simpa using valid)
    exact ⟨clock, near, ⟨first, last⟩, ⟨_, isDayNumber_iff.mpr ⟨there, rfl⟩, named, rfl⟩, inside⟩
  · rintro ⟨-, near, ⟨first, last⟩, ⟨days, counted, named, rfl⟩, range⟩
    obtain ⟨there, rfl⟩ := isDayNumber_iff.mp counted
    have valid := Date.isValid_iff.mpr ⟨first, last, there⟩
    exact ⟨by simpa using valid, named, near, range, rfl⟩

/-- Fields stand for one instant at most. -/
theorem Fields.Denotes.unique {fields : Fields} {t u : Instant} (h : fields.Denotes t)
    (h' : fields.Denotes u) : t = u :=
  Except.ok.inj (((instant_eq_ok_iff h.clock).mpr h).symm.trans
    ((instant_eq_ok_iff h.clock).mpr h'))

/-! ### The strict form -/

/-- A text in the strict form: a date with a four-digit year, `T`, `t` or a space, a time of day
with two digits for each part, perhaps a fraction, and an offset. -/
inductive IsInternetTime : List Char → Instant → Prop
  | intro {yyyy mm dd hh mi ss fraction zone : List Char} {separator : Char}
    {year month day hour minute second nanosecond : Nat} {shift : Int} {t : Instant}
    (years : IsNumber 4 (some 4) yyyy year)
    (months : IsNumber 2 (some 2) mm month)
    (days : IsNumber 2 (some 2) dd day)
    (between : separator = 'T' ∨ separator = 't' ∨ separator = ' ')
    (hours : IsNumber 2 (some 2) hh hour)
    (minutes : IsNumber 2 (some 2) mi minute)
    (seconds : IsNumber 2 (some 2) ss second)
    (fractions : IsFraction fraction nanosecond)
    (offset : IsInternetOffset zone shift)
    (denotes : Fields.Denotes
      ⟨year, month, day, hour, minute, second, nanosecond, shift, none⟩ t) :
    IsInternetTime (yyyy ++ '-' :: (mm ++ '-' :: (dd ++ separator :: (hh ++ ':' :: (mi ++ ':' ::
      (ss ++ (fraction ++ zone))))))) t

variable {cs : List Char} {t : Instant}

theorem internet?_sound (h : Instant.internet? cs = .ok t) : IsInternetTime cs t := by
  obtain ⟨⟨year, cs₁⟩, yearRead, h₁⟩ := bind_eq_ok_iff.mp h
  obtain ⟨cs₂, dash, h₂⟩ := bind_eq_ok_iff.mp h₁
  obtain ⟨⟨month, cs₃⟩, monthRead, h₃⟩ := bind_eq_ok_iff.mp h₂
  obtain ⟨cs₄, dash', h₄⟩ := bind_eq_ok_iff.mp h₃
  obtain ⟨⟨day, cs₅⟩, dayRead, h₅⟩ := bind_eq_ok_iff.mp h₄
  obtain ⟨cs₆, between, h₆⟩ := bind_eq_ok_iff.mp h₅
  obtain ⟨⟨hour, cs₇⟩, hourRead, h₇⟩ := bind_eq_ok_iff.mp h₆
  obtain ⟨cs₈, colon, h₈⟩ := bind_eq_ok_iff.mp h₇
  obtain ⟨⟨minute, cs₉⟩, minuteRead, h₉⟩ := bind_eq_ok_iff.mp h₈
  obtain ⟨cs₁₀, colon', h₁₀⟩ := bind_eq_ok_iff.mp h₉
  obtain ⟨⟨second, cs₁₁⟩, secondRead, h₁₁⟩ := bind_eq_ok_iff.mp h₁₀
  obtain ⟨⟨nanosecond, cs₁₂⟩, fractionRead, h₁₂⟩ := bind_eq_ok_iff.mp h₁₁
  obtain ⟨⟨shift, cs₁₃⟩, offsetRead, h₁₃⟩ := bind_eq_ok_iff.mp h₁₂
  simp only [guard_eq_ok_iff] at h₁₃
  obtain ⟨near, ends, read⟩ := h₁₃
  obtain rfl : cs₁₃ = [] := by simpa using ends
  -- A reader says what it took in front of what it left: the text is put together from its end.
  obtain ⟨zone, rfl, offset⟩ := offset_reads.sound offsetRead
  obtain ⟨fraction, rfl, fractions⟩ := fraction_reads.sound fractionRead
  obtain ⟨ss, rfl, seconds, -, latest⟩ := (numberWithin_reads _ _ _ (by decide)).sound secondRead
  obtain rfl := character_eq_ok_iff.mp colon'
  obtain ⟨mi, rfl, minutes, -, lastMinute⟩ :=
    (numberWithin_reads _ _ _ (by decide)).sound minuteRead
  obtain rfl := character_eq_ok_iff.mp colon
  obtain ⟨hh, rfl, hours, -, lastHour⟩ := (numberWithin_reads _ _ _ (by decide)).sound hourRead
  obtain ⟨separator, known, rfl⟩ := dateTimeSeparator_eq_ok_iff.mp between
  obtain ⟨dd, rfl, days, -⟩ := (numberWithin_reads _ _ _ (by decide)).sound dayRead
  obtain rfl := character_eq_ok_iff.mp dash'
  obtain ⟨mm, rfl, months, -⟩ := (numberWithin_reads _ _ _ (by decide)).sound monthRead
  obtain rfl := character_eq_ok_iff.mp dash
  obtain ⟨yyyy, rfl, years, -⟩ := (number_reads _ _).sound yearRead
  rw [List.append_nil]
  have denotes := (Fields.instant_eq_ok_iff ⟨lastHour, lastMinute, latest⟩).mp read
  exact .intro years months days known hours minutes seconds fractions offset denotes

/-- The date that fields name exists. -/
theorem Fields.Denotes.date {fields : Fields} (h : fields.Denotes t) :
    (1 ≤ fields.month ∧ fields.month ≤ 12) ∧ 1 ≤ fields.day ∧ fields.day ≤ 31 := by
  obtain ⟨days, counted, -⟩ := h.instant
  obtain ⟨⟨month, least, most⟩, -⟩ := isDayNumber_iff.mp counted
  exact ⟨month, least, most.trans (daysInMonth_le _ _)⟩

theorem internet?_complete (h : IsInternetTime cs t) : Instant.internet? cs = .ok t := by
  obtain ⟨years, months, days, between, hours, minutes, seconds, fractions, offset, denotes⟩ := h
  obtain ⟨⟨firstMonth, lastMonth⟩, firstDate, lastDate⟩ := denotes.date
  obtain ⟨lastHour, lastMinute, latest⟩ := denotes.clock
  refine bind_eq_ok_iff.mpr ⟨_, (number_reads _ _).complete
    ⟨years, years.lt_of_most.trans (by decide)⟩ (.inl rfl), ?_⟩
  refine bind_eq_ok_iff.mpr ⟨_, character_cons _ _, ?_⟩
  refine bind_eq_ok_iff.mpr ⟨_, field_complete months firstMonth lastMonth (by decide) _, ?_⟩
  refine bind_eq_ok_iff.mpr ⟨_, character_cons _ _, ?_⟩
  refine bind_eq_ok_iff.mpr ⟨_, field_complete days firstDate lastDate (by decide) _, ?_⟩
  refine bind_eq_ok_iff.mpr ⟨_, dateTimeSeparator_eq_ok_iff.mpr ⟨_, between, rfl⟩, ?_⟩
  refine bind_eq_ok_iff.mpr ⟨_, field_complete hours (Nat.zero_le _) lastHour (by decide) _, ?_⟩
  refine bind_eq_ok_iff.mpr ⟨_, character_cons _ _, ?_⟩
  refine bind_eq_ok_iff.mpr
    ⟨_, field_complete minutes (Nat.zero_le _) lastMinute (by decide) _, ?_⟩
  refine bind_eq_ok_iff.mpr ⟨_, character_cons _ _, ?_⟩
  refine bind_eq_ok_iff.mpr ⟨_, field_complete seconds (Nat.zero_le _) latest (by decide) _, ?_⟩
  refine bind_eq_ok_iff.mpr ⟨_, fraction_reads.complete fractions offset.stops, ?_⟩
  refine bind_eq_ok_iff.mpr ⟨_, offset_reads.complete_nil offset trivial, ?_⟩
  refine guard_eq_ok_iff.mpr ⟨Nat.not_le.mpr denotes.offset, ?_⟩
  exact (Fields.instant_eq_ok_iff denotes.clock).mpr denotes

/-- **A text is read in the strict form** exactly if it is written in it. -/
theorem internet?_eq_ok_iff : Instant.internet? cs = .ok t ↔ IsInternetTime cs t :=
  ⟨internet?_sound, internet?_complete⟩

end CatalogFeeds.Time
