import CatalogFeeds.Time.Calendar
import Mathlib.Tactic.IntervalCases
/-!
Dates and day numbers.

Days are counted one by one from 1 January 1970, in both directions. The two formulas of the
calendar count years from March of year 0: a date and a day number are both told by such a year
and a day in it, and so the formulas are inverse to each other.

* `isDayNumber_iff` — the number of a date's day is what counting gives.
* `ofDays_days`, `days_ofDays` — dates and day numbers correspond to each other.
* `isValid_ofDays_iff` — within the range of dates a day number leads to a date that exists.
-/

namespace CatalogFeeds.Time

/-! ### Counting days -/

/-- A month and day that exist. -/
structure Date.Exists (date : Date) : Prop where
  month : 1 ≤ date.month ∧ date.month ≤ 12
  day : 1 ≤ date.day ∧ date.day ≤ daysInMonth date.year date.month

/-- The day after a date. -/
def Date.next (date : Date) : Date :=
  if date.day < daysInMonth date.year date.month then ⟨date.year, date.month, date.day + 1⟩
  else if date.month < 12 then ⟨date.year, date.month + 1, 1⟩
  else ⟨date.year + 1, 1, 1⟩

/-- The number of a day, counted from 1 January 1970. -/
inductive IsDayNumber : Date → Int → Prop
  | start : IsDayNumber ⟨1970, 1, 1⟩ 0
  | later {date : Date} {n : Int} (h : IsDayNumber date n) : IsDayNumber date.next (n + 1)
  | earlier {date : Date} {n : Int} (there : date.Exists) (h : IsDayNumber date.next n) :
    IsDayNumber date (n - 1)

theorem Date.isValid_iff {date : Date} :
    date.isValid = true ↔ firstYear ≤ date.year ∧ date.year ≤ lastYear ∧ date.Exists := by
  simp only [isValid, Bool.and_eq_true, decide_eq_true_eq]
  constructor
  · rintro ⟨⟨⟨⟨⟨first, last⟩, january⟩, december⟩, least⟩, most⟩
    exact ⟨first, last, ⟨january, december⟩, least, most⟩
  · rintro ⟨first, last, ⟨january, december⟩, least, most⟩
    exact ⟨⟨⟨⟨⟨first, last⟩, january⟩, december⟩, least⟩, most⟩

/-! ### Years from March -/

/-- The days from March of year 0 to March of a year. -/
def daysBefore (year : Int) : Int :=
  365 * year + year / 4 - year / 100 + year / 400

/-- The last day of the year that begins in March of a year, counted from zero. -/
def endOfYear (year : Int) : Int :=
  if isLeapYear (year + 1) then 365 else 364

/-- A day of the year that begins in March of a year, counted from zero. -/
def InYear (year day : Int) : Prop :=
  0 ≤ day ∧ day ≤ endOfYear year

/-- The date of a day of a year that begins in March. -/
def dateFromMarch (year day : Int) : Date :=
  let month := (5 * day + 2) / 153
  ⟨if month < 10 then year else year + 1, (if month < 10 then month + 3 else month - 9).toNat,
    (day - (153 * month + 2) / 5 + 1).toNat⟩

variable {year day : Int}

theorem isLeapYear_iff :
    isLeapYear year = true ↔ year % 4 = 0 ∧ (year % 100 ≠ 0 ∨ year % 400 = 0) := by
  simp [isLeapYear]

theorem endOfYear_cases (year : Int) :
    endOfYear year = 365 ∧ isLeapYear (year + 1) = true ∨
      endOfYear year = 364 ∧ isLeapYear (year + 1) = false := by
  unfold endOfYear
  cases isLeapYear (year + 1) <;> simp

theorem daysBefore_succ (year : Int) :
    daysBefore (year + 1) = daysBefore year + endOfYear year + 1 := by
  unfold daysBefore
  rcases endOfYear_cases year with ⟨last, leap⟩ | ⟨last, common⟩
  · rw [isLeapYear_iff] at leap
    omega
  · rw [← Bool.not_eq_true, isLeapYear_iff] at common
    omega

/-- Every day lies in some year. -/
theorem exists_inYear (days : Int) :
    ∃ year day, days = daysBefore year + day ∧ InYear year day := by
  unfold InYear
  induction days using Int.induction_on with
  | zero => exact ⟨0, 0, rfl, by decide⟩
  | succ days ih =>
    obtain ⟨year, day, whole, first, last⟩ := ih
    have next := daysBefore_succ year
    by_cases inside : day < endOfYear year
    · exact ⟨year, day + 1, by omega, by omega, by omega⟩
    · have ends := endOfYear_cases (year + 1)
      exact ⟨year + 1, 0, by omega, by omega, by omega⟩
  | pred days ih =>
    obtain ⟨year, day, whole, first, last⟩ := ih
    by_cases inside : 0 < day
    · exact ⟨year, day - 1, by omega, by omega, by omega⟩
    · have next := daysBefore_succ (year - 1)
      have ends := endOfYear_cases (year - 1)
      rw [Int.sub_add_cancel] at next
      exact ⟨year - 1, endOfYear (year - 1), by omega, by omega, by omega⟩

/-- The year of an era is found by taking the leap days away. -/
theorem yearOfEra_eq (low : 0 ≤ year) (high : year < 400) (inside : InYear year day) :
    let dayOfEra := daysBefore year + day
    (dayOfEra - dayOfEra / 1460 + dayOfEra / 36524 - dayOfEra / 146096) / 365 = year := by
  obtain ⟨fours, rest, rfl, least, most⟩ :
      ∃ fours rest, year = 4 * fours + rest ∧ 0 ≤ rest ∧ rest ≤ 3 :=
    ⟨year / 4, year % 4, by omega, by omega, by omega⟩
  have century : daysBefore (4 * fours + rest) = 1461 * fours + 365 * rest - fours / 25 := by
    unfold daysBefore
    omega
  rw [century]
  by_cases last : fours = 99 ∧ rest = 3 ∧ day = 365
  · obtain ⟨rfl, rfl, rfl⟩ := last
    decide
  have ends := endOfYear_cases (4 * fours + rest)
  rw [isLeapYear_iff] at ends
  obtain ⟨start, stop⟩ := inside
  have leap : day = 365 → rest = 3 ∧ fours % 25 ≠ 24 := by omega
  generalize whole : 1461 * fours + 365 * rest - fours / 25 + day = dayOfEra
  have hundreds : dayOfEra / 36524 = fours / 25 := by omega
  have none : dayOfEra / 146096 = 0 := by omega
  have cycles : dayOfEra / 1460 = fours ∧ day ≤ 364 ∨
      dayOfEra / 1460 = fours + 1 ∧ 0 < day := by
    omega
  omega

/-- Eras of four centuries are alike. -/
theorem daysBefore_era (year : Int) :
    daysBefore year = 146097 * (year / 400) + daysBefore (year % 400) := by
  unfold daysBefore
  omega

theorem endOfYear_era (year : Int) : endOfYear (year % 400) = endOfYear year := by
  have ends := endOfYear_cases year
  have ends' := endOfYear_cases (year % 400)
  rw [← Bool.not_eq_true, isLeapYear_iff] at ends ends'
  omega

/-- The days of an era. -/
theorem dayOfEra_bounds (low : 0 ≤ year) (high : year < 400) (inside : InYear year day) :
    0 ≤ daysBefore year + day ∧ daysBefore year + day < 146097 := by
  have ends := endOfYear_cases year
  rw [isLeapYear_iff] at ends
  obtain ⟨start, stop⟩ := inside
  unfold daysBefore
  omega

/-- **The date of a day number** is that of its year and its day from March. -/
theorem ofDays_eq (inside : InYear year day) :
    Date.ofDays (daysBefore year + day - 719468) = dateFromMarch year day := by
  have inEra : InYear (year % 400) day := by rwa [InYear, endOfYear_era]
  have low : 0 ≤ year % 400 := by omega
  have high : year % 400 < 400 := by omega
  obtain ⟨least, most⟩ := dayOfEra_bounds low high inEra
  have whole := daysBefore_era year
  have era : (daysBefore year + day) / 146097 = year / 400 := by omega
  have dayOfEra : (daysBefore year + day) % 146097 = daysBefore (year % 400) + day := by omega
  have dayOfYear : daysBefore (year % 400) + day -
      (365 * (year % 400) + year % 400 / 4 - year % 400 / 100) = day := by
    unfold daysBefore
    omega
  have months : (5 * day + 2) / 153 ≤ 11 ∧ 0 ≤ (5 * day + 2) / 153 := by
    have ends := endOfYear_cases year
    obtain ⟨start, stop⟩ := inside
    omega
  have years : year % 400 + year / 400 * 400 = year := by omega
  simp only [Date.ofDays, Int.sub_add_cancel, era, dayOfEra, yearOfEra_eq low high inEra,
    dayOfYear, years, dateFromMarch, Date.mk.injEq, and_true]
  by_cases late : (5 * day + 2) / 153 < 10
  · simp only [if_pos late]
    omega
  · simp only [if_neg late]
    omega

/-- The day number of a date is that of its year and its day from March. -/
theorem days_eq (date : Date) :
    let month : Int := (date.month + 9) % 12
    date.days = daysBefore (if date.month ≤ 2 then date.year - 1 else date.year) +
      ((153 * month + 2) / 5 + date.day - 1) - 719468 := by
  intro month
  simp only [Date.days]
  rw [daysBefore_era]
  unfold daysBefore
  omega

/-- The months from March begin on these days of the year. -/
def monthStart (month : Int) : Int :=
  (153 * month + 2) / 5

theorem exists_month (start : 0 ≤ day) (stop : day ≤ 365) :
    ∃ month, (5 * day + 2) / 153 = month ∧ 0 ≤ month ∧ month ≤ 11 ∧ monthStart month ≤ day ∧
      day < monthStart (month + 1) := by
  refine ⟨_, rfl, ?_⟩
  unfold monthStart
  omega

theorem dateFromMarch_early {month : Int} (own : (5 * day + 2) / 153 = month) (early : month < 10) :
    dateFromMarch year day = ⟨year, (month + 3).toNat, (day - monthStart month + 1).toNat⟩ := by
  simp [dateFromMarch, monthStart, own, early]

theorem dateFromMarch_late {month : Int} (own : (5 * day + 2) / 153 = month) (late : ¬ month < 10) :
    dateFromMarch year day =
      ⟨year + 1, (month - 9).toNat, (day - monthStart month + 1).toNat⟩ := by
  simp [dateFromMarch, monthStart, own, late]

theorem days_dateFromMarch (inside : InYear year day) :
    (dateFromMarch year day).days = daysBefore year + day - 719468 := by
  have ends := endOfYear_cases year
  obtain ⟨start, stop⟩ := inside
  obtain ⟨month, own, march, february, least, -⟩ := exists_month start (by omega)
  rw [days_eq]
  by_cases early : month < 10
  · have fromMarch : (((month + 3).toNat : Int) + 9) % 12 = month := by omega
    rw [dateFromMarch_early own early, if_neg (by simp only; omega)]
    simp only [fromMarch, monthStart]
    omega
  · have fromMarch : (((month - 9).toNat : Int) + 9) % 12 = month := by omega
    rw [dateFromMarch_late own early, if_pos (by simp only; omega)]
    simp only [fromMarch, monthStart, Int.add_sub_cancel]
    omega

/-- How long a month is: up to the start of the next, or to the end of the year from March. -/
theorem daysInMonth_cases (year : Int) {month : Nat} (january : 1 ≤ month) (december : month ≤ 12) :
    let fromMarch : Int := (month + 9) % 12
    month ≠ 2 ∧ (daysInMonth year month : Int) =
        monthStart (fromMarch + 1) - monthStart fromMarch ∨
      month = 2 ∧ (daysInMonth year month : Int) = endOfYear (year - 1) + 1 - monthStart 11 := by
  rcases endOfYear_cases (year - 1) with ⟨last, leap⟩ | ⟨last, leap⟩ <;>
    rw [Int.sub_add_cancel] at leap <;>
    interval_cases month <;> simp [daysInMonth, monthStart, last, leap]

theorem exists_dateFromMarch (inside : InYear year day) : (dateFromMarch year day).Exists := by
  have ends := endOfYear_cases year
  obtain ⟨start, stop⟩ := inside
  obtain ⟨month, own, march, february, least, most⟩ := exists_month start (by omega)
  by_cases early : month < 10
  · have length := daysInMonth_cases year (by omega : 1 ≤ (month + 3).toNat) (by omega)
    have fromMarch : (((month + 3).toNat : Int) + 9) % 12 = month := by omega
    rw [dateFromMarch_early own early]
    simp only [fromMarch] at length
    exact ⟨by simp only; omega, by simp only; omega⟩
  · have length := daysInMonth_cases (year + 1) (by omega : 1 ≤ (month - 9).toNat) (by omega)
    have fromMarch : (((month - 9).toNat : Int) + 9) % 12 = month := by omega
    rw [dateFromMarch_late own early]
    simp only [fromMarch, Int.add_sub_cancel] at length
    refine ⟨by simp only; omega, ?_⟩
    rcases length with ⟨other, length⟩ | ⟨own, length⟩
    · simp only
      omega
    · obtain rfl : month = 11 := by omega
      simp only
      omega

/-- **A date that exists** is that of some year and some day from March. -/
theorem Date.Exists.fromMarch {date : Date} (there : date.Exists) :
    ∃ year day, InYear year day ∧ dateFromMarch year day = date := by
  obtain ⟨year, month, day⟩ := date
  obtain ⟨⟨january, december⟩, least, most⟩ := there
  simp only at january december least most
  have length := daysInMonth_cases year january december
  unfold InYear
  by_cases late : month ≤ 2
  · have ends := endOfYear_cases (year - 1)
    have fromMarch : ((month : Int) + 9) % 12 = month + 9 := by omega
    rw [fromMarch] at length
    have own : (5 * (monthStart (month + 9) + day - 1) + 2) / 153 = month + 9 := by
      unfold monthStart at length ⊢
      omega
    refine ⟨year - 1, monthStart (month + 9) + day - 1, ⟨?_, ?_⟩, ?_⟩
    · unfold monthStart
      omega
    · unfold monthStart at length ⊢
      omega
    · rw [dateFromMarch_late own (by omega), Date.mk.injEq]
      omega
  · have ends := endOfYear_cases year
    have fromMarch : ((month : Int) + 9) % 12 = month - 3 := by omega
    rw [fromMarch] at length
    have own : (5 * (monthStart (month - 3) + day - 1) + 2) / 153 = month - 3 := by
      unfold monthStart at length ⊢
      omega
    refine ⟨year, monthStart (month - 3) + day - 1, ⟨?_, ?_⟩, ?_⟩
    · unfold monthStart
      omega
    · unfold monthStart at length ⊢
      omega
    · rw [dateFromMarch_early own (by omega), Date.mk.injEq]
      omega

/-! ### Dates and their numbers -/

/-- **A day number is that of its date.** -/
theorem days_ofDays (days : Int) : (Date.ofDays days).days = days := by
  obtain ⟨year, day, whole, inside⟩ := exists_inYear (days + 719468)
  obtain rfl : days = daysBefore year + day - 719468 := by omega
  rw [ofDays_eq inside, days_dateFromMarch inside]

/-- **A date that exists is that of its day number.** -/
theorem ofDays_days {date : Date} (there : date.Exists) : Date.ofDays date.days = date := by
  obtain ⟨year, day, inside, rfl⟩ := there.fromMarch
  rw [days_dateFromMarch inside, ofDays_eq inside]

theorem exists_ofDays (days : Int) : (Date.ofDays days).Exists := by
  obtain ⟨year, day, whole, inside⟩ := exists_inYear (days + 719468)
  obtain rfl : days = daysBefore year + day - 719468 := by omega
  rw [ofDays_eq inside]
  exact exists_dateFromMarch inside

/-- A year begins on day 306 of the one that begins in March before. -/
theorem year_bounds {date : Date} (there : date.Exists) :
    daysBefore (date.year - 1) + 306 - 719468 ≤ date.days ∧
      date.days < daysBefore date.year + 306 - 719468 := by
  obtain ⟨⟨january, december⟩, least, most⟩ := there
  have length := daysInMonth_cases date.year january december
  have years := daysBefore_succ (date.year - 1)
  have ends := endOfYear_cases (date.year - 1)
  rw [Int.sub_add_cancel] at years
  unfold monthStart at length
  rw [days_eq]
  by_cases late : date.month ≤ 2
  · rw [if_pos late]
    omega
  · rw [if_neg late]
    omega

theorem firstYear_le_iff (days : Int) : firstYear ≤ (Date.ofDays days).year ↔ firstDay ≤ days := by
  have first : firstDay = -96465292 := by decide
  obtain ⟨least, most⟩ := year_bounds (exists_ofDays days)
  rw [days_ofDays] at least most
  unfold daysBefore at least most
  rw [first, firstYear]
  omega

theorem le_lastYear_iff (days : Int) : (Date.ofDays days).year ≤ lastYear ↔ days ≤ lastDay := by
  have last : lastDay = 95026236 := by decide
  obtain ⟨least, most⟩ := year_bounds (exists_ofDays days)
  rw [days_ofDays] at least most
  unfold daysBefore at least most
  rw [last, lastYear]
  omega

/-- **The range of dates** in days and in years. -/
theorem isValid_ofDays_iff (days : Int) :
    (Date.ofDays days).isValid = true ↔ firstDay ≤ days ∧ days ≤ lastDay := by
  rw [Date.isValid_iff, firstYear_le_iff, le_lastYear_iff]
  simp [exists_ofDays]

/-! ### Counting -/

/-- A month has a day. -/
theorem daysInMonth_pos (year : Int) (month : Nat) : 0 < daysInMonth year month := by
  unfold daysInMonth
  split
  · split <;> decide
  all_goals decide

theorem daysInMonth_le (year : Int) (month : Nat) : daysInMonth year month ≤ 31 := by
  unfold daysInMonth
  split
  · split <;> decide
  all_goals decide

theorem exists_next {date : Date} (there : date.Exists) : date.next.Exists := by
  obtain ⟨⟨january, december⟩, least, most⟩ := there
  unfold Date.next
  by_cases inside : date.day < daysInMonth date.year date.month
  · rw [if_pos inside]
    exact ⟨⟨january, december⟩, by simp, inside⟩
  rw [if_neg inside]
  by_cases more : date.month < 12
  · rw [if_pos more]
    exact ⟨⟨by simp, more⟩, by simp, daysInMonth_pos _ _⟩
  · rw [if_neg more]
    exact ⟨by simp, by simp, daysInMonth_pos _ _⟩

/-- **The next date** has the next number. -/
theorem days_next {date : Date} (there : date.Exists) : date.next.days = date.days + 1 := by
  obtain ⟨year, month, day⟩ := date
  obtain ⟨⟨january, december⟩, least, most⟩ := there
  simp only at january december least most
  simp only [Date.next]
  by_cases inside : day < daysInMonth year month
  · rw [if_pos inside, days_eq, days_eq]
    simp only
    omega
  have whole : day = daysInMonth year month := by omega
  rw [if_neg inside]
  have length := daysInMonth_cases year january december
  have years := daysBefore_succ (year - 1)
  rw [Int.sub_add_cancel] at years
  rw [← whole] at length
  unfold monthStart at length
  by_cases more : month < 12
  · rw [if_pos more, days_eq, days_eq]
    interval_cases month <;> simp at length ⊢ <;> omega
  · obtain rfl : month = 12 := by omega
    rw [if_neg more, days_eq, days_eq]
    simp at length ⊢
    omega

/-- **The number of a date** that exists is the one that counting gives, and no other date has
one. -/
theorem isDayNumber_iff {date : Date} {n : Int} :
    IsDayNumber date n ↔ date.Exists ∧ date.days = n := by
  constructor
  · intro h
    induction h with
    | start => exact ⟨⟨by decide, by decide⟩, by decide⟩
    | later h ih =>
      obtain ⟨there, number⟩ := ih
      exact ⟨exists_next there, by rw [days_next there, number]⟩
    | earlier there h ih =>
      obtain ⟨-, number⟩ := ih
      have next := days_next there
      exact ⟨there, by omega⟩
  · rintro ⟨there, rfl⟩
    -- Every day number is reached from that of 1 January 1970, in one direction or the other.
    have next : ∀ n, (Date.ofDays n).next = Date.ofDays (n + 1) := by
      intro n
      have own := days_next (exists_ofDays n)
      rw [days_ofDays] at own
      rw [← own, ofDays_days (exists_next (exists_ofDays n))]
    have reached : ∀ n, IsDayNumber (Date.ofDays n) n := by
      intro n
      induction n using Int.induction_on with
      | zero => exact .start
      | succ n ih => exact next n ▸ ih.later
      | pred n ih =>
        refine .earlier (exists_ofDays _) ?_
        rwa [next, Int.sub_add_cancel]
    have own := reached date.days
    rwa [ofDays_days there] at own

end CatalogFeeds.Time
