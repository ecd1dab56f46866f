import CatalogFeeds.Number.Power
import CatalogFeeds.Time.Instant
import CatalogFeeds.Text.Blank
/-!
Reading instants.

Three grammars are read. `Instant.internet?` is the strict one with a four-digit year, `T`, `t`
or a space before the time, and a mandatory offset. `Instant.relaxed?` also takes signed years,
one-digit fields, blanks around the fields and the offset `UTC`. `Instant.mail?` is the one of
mail headers, with names for weekday, month and zone. A leap second may be written in any minute.
Every reader says why it gives up.
-/

namespace CatalogFeeds.Time

open CatalogFeeds.Text

/-- Why a text is no instant. -/
inductive TimeError where
  | outOfRange
  | impossible
  | invalid
  | tooShort
  | tooLong
  deriving DecidableEq, Repr

/-- The phrase that reports an error. -/
def TimeError.message : TimeError → String
  | outOfRange => "input is out of range"
  | impossible => "no possible date and time matching input"
  | invalid => "input contains invalid characters"
  | tooShort => "premature end of input"
  | tooLong => "trailing input"

/-! ### Pieces -/

/-- A reader takes a piece from the start of a text and leaves the rest. -/
abbrev Scan (α : Type) := List Char → Except TimeError (α × List Char)

/-- The number of bytes a text takes up. -/
def byteLength (cs : List Char) : Nat :=
  cs.foldl (fun n c => n + c.utf8Size) 0

/-- The text without the blanks at its start. -/
def skipBlanks (cs : List Char) : List Char :=
  cs.dropWhile isBlank

/-- Reads between `least` and `most` digits; without `most` there is no upper bound. -/
def number (least : Nat) (most : Option Nat) : Scan Nat := fun cs =>
  if byteLength cs < least then .error .tooShort
  else
    let run := cs.takeWhile isDigit
    let ds := match most with
      | some most => run.take most
      | none => run
    if ds.length < least then .error .invalid
    else
      let value := ofDigits ds
      if value ≥ Number.signedLimit then .error .outOfRange else .ok (value, cs.drop ds.length)

/-- Reads a number and checks its range. -/
def numberWithin (least : Nat) (most : Option Nat) (low high : Nat) : Scan Nat := fun cs => do
  let (value, rest) ← number least most cs
  if low ≤ value && value ≤ high then return (value, rest) else throw .outOfRange

/-- Reads a given character. -/
def character (expected : Char) (cs : List Char) : Except TimeError (List Char) :=
  match cs with
  | [] => .error .tooShort
  | c :: rest => if c == expected then .ok rest else .error .invalid

/-- Reads at least one blank. -/
def blanks (cs : List Char) : Except TimeError (List Char) :=
  match cs with
  | [] => .error .tooShort
  | c :: rest => if isBlank c then .ok (skipBlanks rest) else .error .invalid

/-- Reads the letter or space between date and time. -/
def dateTimeSeparator (cs : List Char) : Except TimeError (List Char) :=
  match cs with
  | [] => .error .tooShort
  | c :: rest => if c == 'T' || c == 't' || c == ' ' then .ok rest else .error .invalid

/-- Reads the digits of a fraction as nanoseconds; digits after the ninth are dropped. -/
def nanoseconds : Scan Nat := fun cs => do
  let (value, rest) ← number 1 (some 9) cs
  let count := (cs.takeWhile isDigit).length
  return (value * Number.tenTo (9 - min count 9), rest.dropWhile isDigit)

/-- Reads a fraction if there is a point. -/
def fraction (cs : List Char) : Except TimeError (Nat × List Char) :=
  match cs with
  | '.' :: rest => nanoseconds rest
  | _ => .ok (0, cs)

/-- Reads two digits of an offset. -/
def twoDigits : Scan Nat := fun cs =>
  if byteLength cs < 2 then .error .tooShort
  else match cs with
    | a :: b :: rest =>
      if isDigit a && isDigit b then .ok (10 * digitValue a + digitValue b, rest)
      else .error .invalid
    | _ => .error .invalid

/-- The minus sign of mathematics, which some offsets are written with. -/
def minusSign : Char := Char.ofNat 0x2212

/-- Reads the sign of an offset; true stands for a negative one. -/
def offsetSign (mathematical : Bool) : Scan Bool := fun cs =>
  match cs with
  | [] => .error .tooShort
  | c :: rest =>
    if c == '+' then .ok (false, rest)
    else if c == '-' || (mathematical && c == minusSign) then .ok (true, rest)
    else .error .invalid

/-- Reads a numeric offset in seconds, `separator` reading what stands before its minutes. -/
def numericOffset (mathematical : Bool)
    (separator : List Char → Except TimeError (List Char)) : Scan Int := fun cs => do
  let (negative, rest) ← offsetSign mathematical cs
  let (hours, rest) ← twoDigits rest
  let rest ← separator rest
  let (minutes, rest) ← twoDigits rest
  if minutes > 59 then throw .outOfRange
  let seconds : Int := hours * 3600 + minutes * 60
  return (if negative then -seconds else seconds, rest)

/-- Reads `Z` or a numeric offset. -/
def offset (separator : List Char → Except TimeError (List Char)) : Scan Int := fun cs =>
  match cs with
  | 'Z' :: rest => .ok (0, rest)
  | 'z' :: rest => .ok (0, rest)
  | _ => numericOffset true separator cs

/-! ### Putting the fields together -/

/-- The fields of an instant as they were read. -/
structure Fields where
  year : Int
  month : Nat
  day : Nat
  hour : Nat
  minute : Nat
  second : Nat
  nanosecond : Nat
  offset : Int
  weekday : Option Nat
  deriving DecidableEq, Repr

/-- The instant of some fields, if they agree with each other and with the calendar. -/
def Fields.instant (fields : Fields) : Except TimeError Instant := do
  let date : Date := ⟨fields.year, fields.month, fields.day⟩
  if !date.isValid then throw .outOfRange
  if fields.weekday.any (· != Time.weekday date.days) then throw .impossible
  if fields.offset.natAbs ≥ 86400 then throw .outOfRange
  let leap := fields.second == 60
  let second := if leap then 59 else fields.second
  let nanosecond := if leap then fields.nanosecond + 1000000000 else fields.nanosecond
  let instant : Instant :=
    ⟨date.days * 86400 + fields.hour * 3600 + fields.minute * 60 + second - fields.offset,
      nanosecond⟩
  if instant.day < firstDay || lastDay < instant.day then throw .impossible
  return instant

/-! ### The grammars -/

/-- Reads a text of the strict grammar. -/
def Instant.internet? (cs : List Char) : Except TimeError Instant := do
  let (year, rest) ← number 4 (some 4) cs
  let rest ← character '-' rest
  let (month, rest) ← numberWithin 2 (some 2) 1 12 rest
  let rest ← character '-' rest
  let (day, rest) ← numberWithin 2 (some 2) 1 31 rest
  let rest ← dateTimeSeparator rest
  let (hour, rest) ← numberWithin 2 (some 2) 0 23 rest
  let rest ← character ':' rest
  let (minute, rest) ← numberWithin 2 (some 2) 0 59 rest
  let rest ← character ':' rest
  let (second, rest) ← numberWithin 2 (some 2) 0 60 rest
  let (nanosecond, rest) ← fraction rest
  let (offset, rest) ← offset (character ':') rest
  if offset.natAbs ≥ 86400 then throw .outOfRange
  if !rest.isEmpty then throw .tooLong
  Fields.instant ⟨year, month, day, hour, minute, second, nanosecond, offset, none⟩

/-- Reads the year of the relaxed grammar. -/
def signedYear : Scan Int := fun cs => do
  let (year, rest) ← (match skipBlanks cs with
    | '-' :: rest => (number 1 none rest).map fun (n, rest) => (-(n : Int), rest)
    | '+' :: rest => (number 1 none rest).map fun (n, rest) => ((n : Int), rest)
    | rest => (number 1 (some 4) rest).map fun (n, rest) => ((n : Int), rest) :
      Except TimeError (Int × List Char))
  if year < -(Number.twoTo 31 : Int) || (Number.twoTo 31 : Int) ≤ year then throw .outOfRange
  return (year, rest)

/-- Reads a field of one or two digits after blanks. -/
def looseField (low high : Nat) : Scan Nat := fun cs =>
  numberWithin 1 (some 2) low high (skipBlanks cs)

/-- Reads a separator after blanks. -/
def looseCharacter (expected : Char) (cs : List Char) : Except TimeError (List Char) :=
  character expected (skipBlanks cs)

/-- Skips colons and blanks. -/
def colonsOrBlanks (cs : List Char) : Except TimeError (List Char) :=
  .ok (cs.dropWhile fun c => c == ':' || isBlank c)

/-- Reads the offset of the relaxed grammar. -/
def looseOffset : Scan Int := fun cs =>
  match cs with
  | a :: b :: c :: rest =>
    if [a, b, c].map upper == ['U', 'T', 'C'] then .ok (0, rest) else offset colonsOrBlanks cs
  | _ => offset colonsOrBlanks cs

/-- Reads a text of the relaxed grammar. -/
def Instant.relaxed? (cs : List Char) : Except TimeError Instant := do
  let (year, rest) ← signedYear cs
  let rest ← looseCharacter '-' rest
  let (month, rest) ← looseField 1 12 rest
  let rest ← looseCharacter '-' rest
  let (day, rest) ← looseField 1 31 rest
  let rest ← dateTimeSeparator rest
  let (hour, rest) ← looseField 0 23 rest
  let rest ← looseCharacter ':' rest
  let (minute, rest) ← looseField 0 59 rest
  let rest ← looseCharacter ':' rest
  let (second, rest) ← looseField 0 60 rest
  let (nanosecond, rest) ← fraction rest
  let (offset, rest) ← looseOffset (skipBlanks rest)
  if !(skipBlanks rest).isEmpty then throw .tooLong
  Fields.instant ⟨year, month, day, hour, minute, second, nanosecond, offset, none⟩

/-- Reads a three-letter name of either case as its place in a list. -/
def shortName? (names : List String) (cs : List Char) : Option (Nat × List Char) :=
  match cs with
  | a :: b :: c :: rest =>
    let word := [a, b, c].map lower
    (names.findIdx? fun name => name.toList.map lower == word).map fun i => (i, rest)
  | _ => none

/-- Reads an optional weekday with its comma. -/
def weekdayPart (cs : List Char) : Except TimeError (Option Nat × List Char) :=
  match shortName? weekdayNames cs with
  | some (day, ',' :: rest) => .ok (some day, rest)
  | some _ => .error .invalid
  | none => .ok (none, cs)

/-- Reads the name of a month, counted from one. -/
def monthPart : Scan Nat := fun cs =>
  match shortName? monthNames cs with
  | some (month, rest) => .ok (month + 1, rest)
  | none => .error (if byteLength cs < 3 then .tooShort else .invalid)

/-- Reads a year of two, three or more digits; the short ones lie around the year 2000. -/
def mailYear : Scan Int := fun cs => do
  let (year, rest) ← number 2 none cs
  let year := match cs.length - rest.length with
    | 2 => if year < 50 then year + 2000 else year + 1900
    | 3 => year + 1900
    | _ => year
  if Number.twoTo 31 ≤ year then throw .outOfRange
  return (year, rest)

/-- Reads optional seconds with their colon. -/
def optionalSecond (cs : List Char) : Except TimeError (Nat × List Char) :=
  match skipBlanks cs with
  | ':' :: rest => numberWithin 2 (some 2) 0 60 rest
  | _ => .ok (0, cs)

/-- The offset in hours of a named zone. -/
def zoneHours? (name : String) : Option Int :=
  match name with
  | "gmt" | "ut" | "z" => some 0
  | "edt" => some (-4)
  | "est" | "cdt" => some (-5)
  | "cst" | "mdt" => some (-6)
  | "mst" | "pdt" => some (-7)
  | "pst" => some (-8)
  | _ => if name.length == 1 && name != "j" then some 0 else none

/-- Reads a named zone or a numeric offset without colon. -/
def zone : Scan Int := fun cs =>
  let name := cs.takeWhile isLetter
  if name.isEmpty then numericOffset false .ok cs
  else match zoneHours? (String.ofList (name.map lower)) with
    | some hours => .ok (hours * 3600, cs.drop name.length)
    | none => .error .invalid

/-- What follows the end of the comment that `depth` parentheses opened. -/
def afterComment? : Nat → List Char → Option (List Char)
  | _, [] => none
  | 0, cs => some cs
  | depth + 1, '\\' :: _ :: rest => afterComment? (depth + 1) rest
  | depth + 1, '(' :: rest => afterComment? (depth + 2) rest
  | 1, ')' :: rest => some rest
  | depth + 1, ')' :: rest => afterComment? depth rest
  | depth + 1, _ :: rest => afterComment? (depth + 1) rest

/-- Skips comments in parentheses, as many as the bound allows. -/
def skipComments : Nat → List Char → List Char
  | 0, cs => cs
  | bound + 1, cs =>
    match skipBlanks cs with
    | '(' :: rest =>
      match afterComment? 1 rest with
      | some rest => skipComments bound rest
      | none => cs
    | _ => cs

/-- Reads a text of the grammar of mail headers. -/
def Instant.mail? (cs : List Char) : Except TimeError Instant := do
  let (weekday, rest) ← weekdayPart (skipBlanks cs)
  let (day, rest) ← numberWithin 1 (some 2) 1 31 (skipBlanks rest)
  let rest ← blanks rest
  let (month, rest) ← monthPart rest
  let rest ← blanks rest
  let (year, rest) ← mailYear rest
  let rest ← blanks rest
  let (hour, rest) ← numberWithin 2 (some 2) 0 23 rest
  let rest ← looseCharacter ':' rest
  let (minute, rest) ← numberWithin 2 (some 2) 0 59 (skipBlanks rest)
  let (second, rest) ← optionalSecond rest
  let rest ← blanks rest
  let (offset, rest) ← zone rest
  let rest := skipComments rest.length rest
  if !rest.isEmpty then throw .tooLong
  Fields.instant ⟨year, month, day, hour, minute, second, 0, offset, weekday⟩

/-- Reads a text of the strict grammar or, failing that, of the one of mail headers; blanks
around it do not count. -/
def Instant.parse? (text : String) : Option Instant :=
  let cs := trim text.toList
  match Instant.internet? cs with
  | .ok instant => some instant
  | .error _ => (Instant.mail? cs).toOption

end CatalogFeeds.Time
