import CatalogFeeds.Time.Calendar
/-!
Instants and how they are written.

An instant counts seconds from the start of 1970 and nanoseconds within the second; from a
billion nanoseconds on it lies in a leap second that follows. Three written forms are used: a
full one with a numeric offset, the same with `Z`, and the one of mail headers, which only has
room for the years 0 to 9999.
-/

namespace CatalogFeeds.Time

open CatalogFeeds.Text

/-- A point in time, in universal time. -/
structure Instant where
  seconds : Int
  nanoseconds : Nat
  deriving DecidableEq, Repr

namespace Instant

/-- The number of the instant's day. -/
def day (t : Instant) : Int :=
  t.seconds / 86400

/-- The seconds since the start of the instant's day. -/
def secondOfDay (t : Instant) : Nat :=
  (t.seconds % 86400).toNat

/-- Whether an instant comes before another. -/
def isBefore (t u : Instant) : Bool :=
  t.seconds < u.seconds || (t.seconds == u.seconds && t.nanoseconds < u.nanoseconds)

/-- The first instant of the range of dates. -/
def earliest : Instant :=
  ⟨firstDay * 86400, 0⟩

/-- The instant a number of seconds and nanoseconds before another, or the earliest one if that
comes later. -/
def minus (t : Instant) (seconds nanoseconds : Nat) : Instant :=
  let borrow : Int := if t.nanoseconds < nanoseconds then 1 else 0
  let result : Instant :=
    ⟨t.seconds - seconds - borrow, t.nanoseconds + borrow.toNat * 1000000000 - nanoseconds⟩
  if result.isBefore earliest then earliest else result

/-- The instant a number of seconds after the start of 1970, within the range of dates. -/
def ofSeconds? (seconds : Int) : Option Instant :=
  if firstDay * 86400 ≤ seconds && seconds < (lastDay + 1) * 86400 then some ⟨seconds, 0⟩ else none

/-- The digits of a year: four of them, or more with a sign in front. -/
def yearDigits (year : Int) : List Char :=
  if 0 ≤ year && year ≤ 9999 then paddedDigits 4 year.toNat
  else (if year < 0 then '-' else '+') :: paddedDigits 4 year.natAbs

/-- The fraction of a second: absent, or as many of three, six or nine digits as it needs. -/
def fractionDigits (nanoseconds : Nat) : List Char :=
  if nanoseconds == 0 then []
  else if nanoseconds % 1000000 == 0 then '.' :: paddedDigits 3 (nanoseconds / 1000000)
  else if nanoseconds % 1000 == 0 then '.' :: paddedDigits 6 (nanoseconds / 1000)
  else '.' :: paddedDigits 9 nanoseconds

/-- The second of the minute, which is sixty within a leap second. -/
def secondOfMinute (t : Instant) : Nat :=
  t.secondOfDay % 60 + t.nanoseconds / 1000000000

/-- The hour, minute and second, separated by colons. -/
def clockDigits (t : Instant) : List Char :=
  paddedDigits 2 (t.secondOfDay / 3600) ++ [':'] ++
    paddedDigits 2 (t.secondOfDay / 60 % 60) ++ [':'] ++ paddedDigits 2 t.secondOfMinute

/-- Date and time of day, without an offset. -/
def dateTimeDigits (t : Instant) : List Char :=
  let date := Date.ofDays t.day
  yearDigits date.year ++ ['-'] ++ paddedDigits 2 date.month ++ ['-'] ++
    paddedDigits 2 date.day ++ ['T'] ++ t.clockDigits ++
    fractionDigits (t.nanoseconds % 1000000000)

/-- The written form that ends with a numeric offset. -/
def textWithOffset (t : Instant) : String :=
  String.ofList (t.dateTimeDigits ++ ['+', '0', '0', ':', '0', '0'])

/-- The written form that ends with `Z`. -/
def text (t : Instant) : String :=
  String.ofList (t.dateTimeDigits ++ ['Z'])

/-- The written form of mail headers, for the years it has room for. -/
def mailText? (t : Instant) : Option String :=
  let date := Date.ofDays t.day
  if 0 ≤ date.year && date.year ≤ 9999 then
    let weekday := weekdayNames.getD (Time.weekday t.day) ""
    let month := monthNames.getD (date.month - 1) ""
    some (weekday ++ ", " ++ toString date.day ++ " " ++ month ++ " " ++
      String.ofList (paddedDigits 4 date.year.toNat) ++ " " ++ String.ofList t.clockDigits ++
      " +0000")
  else none

end Instant

end CatalogFeeds.Time
