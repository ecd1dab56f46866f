import CatalogFeeds.Number.Power
import CatalogFeeds.Text.Ascii
import CatalogFeeds.Text.Blank
import CatalogFeeds.Text.Percent
import CatalogFeeds.Text.Quoted
/-!
Spans of time and how people write them.

A duration is written as numbers with units, largest unit first: `1h 30m`. Reading takes the
units in any order and spelling, with or without blanks, and a decimal fraction where it comes
out even; a lone zero needs no unit. A year is 365.25 days and a month the twelfth part of a
year, rounded to 30.44 days.
-/

namespace CatalogFeeds.Time

open CatalogFeeds.Text

/-- A span of time, in seconds and nanoseconds within the second. -/
structure Duration where
  seconds : Nat
  nanoseconds : Nat := 0
  deriving DecidableEq, Repr

/-- Why a text is no duration. -/
inductive DurationError where
  | empty
  | invalidCharacter (offset : Nat)
  | numberExpected (offset : Nat)
  | unitNeeded (value : Nat)
  | unknownUnit (unit : String)
  | tooLarge
  deriving DecidableEq, Repr

/-- The phrase that reports an error. -/
def DurationError.message : DurationError → String
  | empty => "value was empty"
  | invalidCharacter offset => "invalid character at " ++ toString offset
  | numberExpected offset => "expected number at " ++ toString offset
  | unitNeeded value =>
    "time unit needed, for example " ++ toString value ++ "sec or " ++ toString value ++ "ms"
  | unknownUnit unit =>
    "unknown time unit " ++ String.ofList (quoted unit.toList) ++
      ", supported units: ns, us/µs, ms, sec, min, hours, days, weeks, months, years " ++
      "(and few variations)"
  | tooLarge =>
    "number is too large or cannot be represented without a lack of precision " ++
      "(values below 1ns are not supported)"

/-! ### Units -/

/-- A unit: its spellings, and its length as a multiple of seconds or of nanoseconds. -/
structure TimeUnit where
  spellings : List String
  length : Nat
  inSeconds : Bool

/-- The units that durations are read in. -/
def timeUnits : List TimeUnit := [
  ⟨["nanos", "nsec", "ns"], 1, false⟩,
  ⟨["usec", "us", "µs"], 1000, false⟩,
  ⟨["millis", "msec", "ms"], 1000000, false⟩,
  ⟨["seconds", "second", "secs", "sec", "s"], 1, true⟩,
  ⟨["minutes", "minute", "min", "mins", "m"], 60, true⟩,
  ⟨["hours", "hour", "hrs", "hr", "h"], 3600, true⟩,
  ⟨["days", "day", "d"], 86400, true⟩,
  ⟨["weeks", "week", "wks", "wk", "w"], 604800, true⟩,
  ⟨["months", "month", "M"], 2630016, true⟩,
  ⟨["years", "year", "yrs", "yr", "y"], 31557600, true⟩]

/-- A decimal fraction below one. -/
structure Fraction where
  numerator : Nat
  denominator : Nat

/-- A number that fits a 64-bit word. -/
def bounded (n : Nat) : Except DurationError Nat :=
  if n < Number.wordLimit then .ok n else .error .tooLarge

/-- Adds seconds and nanoseconds to a duration. -/
def Duration.add (total : Duration) (seconds nanoseconds : Nat) :
    Except DurationError Duration := do
  let nanoseconds ← bounded (total.nanoseconds + nanoseconds)
  let seconds ← bounded (total.seconds + seconds + nanoseconds / 1000000000)
  return ⟨seconds, nanoseconds % 1000000000⟩

/-- The seconds and nanoseconds of a fraction of a unit. Fractions of a minute or less are counted
in nanoseconds, longer ones in seconds, and neither may leave a remainder. -/
def TimeUnit.part (unit : TimeUnit) (fraction : Fraction) : Except DurationError (Nat × Nat) := do
  let fine := !unit.inSeconds || unit.length ≤ 60
  if !unit.inSeconds && unit.length == 1 then throw .tooLarge
  let length := if unit.inSeconds && fine then unit.length * 1000000000 else unit.length
  let scaled ← bounded (fraction.numerator * length)
  if scaled % fraction.denominator != 0 then throw .tooLarge
  let amount := scaled / fraction.denominator
  return if fine then (0, amount) else (amount, 0)

/-- Adds a number of units to a duration. -/
def Duration.addUnits (total : Duration) (n : Nat) (fraction : Option Fraction) (unit : String) :
    Except DurationError Duration := do
  let some found := timeUnits.find? (·.spellings.contains unit)
    | throw (if unit.isEmpty then .unitNeeded n else .unknownUnit unit)
  let amount ← bounded (n * found.length)
  let total ← if found.inSeconds then total.add amount 0 else total.add 0 amount
  match fraction with
  | none => return total
  | some fraction =>
    let (seconds, nanoseconds) ← found.part fraction
    total.add seconds nanoseconds

/-! ### Reading -/

/-- A character of which units are made. -/
def isUnitLetter (c : Char) : Bool :=
  isLetter c || c == 'µ'

/-- How many bytes of a text of the given length stand in front of its rest. -/
def offsetOf (total : Nat) (rest : List Char) : Nat :=
  total - (utf8 rest).length

/-- Appends a digit to a number. -/
def appendDigit (n : Nat) (digit : Char) : Except DurationError Nat :=
  bounded (10 * n + digitValue digit)

/-- Reads the digits behind a decimal point. -/
def readFraction (total offset : Nat) (fraction : Fraction) :
    List Char → Except DurationError (Fraction × List Char)
  | [] => finish []
  | c :: rest =>
    if isDigit c then do
      let denominator ← bounded (10 * fraction.denominator)
      let numerator ← appendDigit fraction.numerator c
      readFraction total (offsetOf total rest) ⟨numerator, denominator⟩ rest
    else if isBlank c then readFraction total (offsetOf total rest) fraction rest
    else if isUnitLetter c then finish (c :: rest)
    else .error (.invalidCharacter offset)
where
  /-- Ends a fraction, which needs a digit. -/
  finish (rest : List Char) : Except DurationError (Fraction × List Char) :=
    if fraction.denominator == 1 then .error (.invalidCharacter offset) else .ok (fraction, rest)

/-- Reads the digits of a number, and gives back what begins with its unit. -/
def readAmount (total n : Nat) :
    List Char → Except DurationError (Nat × Option Fraction × List Char)
  | [] => .ok (n, none, [])
  | c :: rest =>
    if isDigit c then do readAmount total (← appendDigit n c) rest
    else if isBlank c then readAmount total n rest
    else if isUnitLetter c then .ok (n, none, c :: rest)
    else if c == '.' then do
      let (fraction, rest) ← readFraction total (offsetOf total (c :: rest)) ⟨0, 1⟩ rest
      return (n, some fraction, rest)
    else .error (.invalidCharacter (offsetOf total (c :: rest)))

/-- Reads the first digit of a number, if there is one. -/
def firstDigit? (total : Nat) (cs : List Char) : Except DurationError (Option (Nat × List Char)) :=
  match cs.dropWhile isBlank with
  | [] => .ok none
  | c :: rest =>
    if isDigit c then .ok (some (digitValue c, rest))
    else .error (.numberExpected (offsetOf total cs))

/-- Reads numbers with units, the first digit of the first number having been read. -/
def readSum (total : Nat) : Nat → Duration → Nat → List Char → Except DurationError Duration
  | 0, _, _, _ => .error .empty
  | fuel + 1, sum, n, cs => do
    let (n, fraction, cs) ← readAmount total n cs
    let (unit, cs) := cs.span isUnitLetter
    let unit := String.ofList unit
    match cs with
    | [] => sum.addUnits n fraction unit
    | c :: rest =>
      if isDigit c then
        readSum total fuel (← sum.addUnits n fraction unit) (digitValue c) rest
      else if isBlank c then
        let sum ← sum.addUnits n fraction unit
        match ← firstDigit? total rest with
        | some (n, rest) => readSum total fuel sum n rest
        | none => return sum
      else throw (.invalidCharacter (offsetOf total cs))

/-- Reads a duration. -/
def Duration.parse (text : String) : Except DurationError Duration := do
  if text == "0" then return ⟨0, 0⟩
  let cs := text.toList
  let total := (utf8 cs).length
  match ← firstDigit? total cs with
  | some (n, rest) => readSum total (cs.length + 1) ⟨0, 0⟩ n rest
  | none => throw .empty

/-! ### Writing -/

/-- An amount of a unit that takes a plural, if there is any of it. -/
def pluralItem (name : String) (n : Nat) : List String :=
  if n == 0 then [] else [toString n ++ name ++ if n == 1 then "" else "s"]

/-- An amount of an abbreviated unit, if there is any of it. -/
def item (name : String) (n : Nat) : List String :=
  if n == 0 then [] else [toString n ++ name]

/-- The amounts of each unit in a duration, largest unit first. -/
def Duration.items (d : Duration) : List String :=
  let ofYear := d.seconds % 31557600
  let ofMonth := ofYear % 2630016
  let ofDay := ofMonth % 86400
  pluralItem "year" (d.seconds / 31557600) ++ pluralItem "month" (ofYear / 2630016) ++
    pluralItem "day" (ofMonth / 86400) ++ item "h" (ofDay / 3600) ++
    item "m" (ofDay % 3600 / 60) ++ item "s" (ofDay % 60) ++
    item "ms" (d.nanoseconds / 1000000) ++ item "us" (d.nanoseconds / 1000 % 1000) ++
    item "ns" (d.nanoseconds % 1000)

/-- The text of a duration. -/
def Duration.text (d : Duration) : String :=
  if d.items.isEmpty then "0s" else " ".intercalate d.items

end CatalogFeeds.Time
