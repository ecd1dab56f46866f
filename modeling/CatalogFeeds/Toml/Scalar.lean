import CatalogFeeds.Json.Basic
import CatalogFeeds.Number.Binary
import CatalogFeeds.Time.Calendar
/-!
Numbers, truth values and dates of TOML.

Digits may be grouped by single underscores. Decimal numerals have no leading zeros. A date, a
time or both together is a value of its own kind, which is kept as an object with one member.
-/

namespace CatalogFeeds.Toml

open CatalogFeeds.Text CatalogFeeds.Time

/-! ### Numbers -/

/-- The digits without the underscores between them. -/
def ungroup? (isDigit : Char → Bool) (cs : List Char) : Option (List Char) :=
  let groups := splitAll '_' cs
  if groups.all fun group => !group.isEmpty && group.all isDigit then some groups.flatten else none

/-- Digits without a superfluous zero in front. -/
def leading? (cs : List Char) : Option (List Char) := do
  let ds ← ungroup? isDigit cs
  if ds.length > 1 && ds.head? == some '0' then none else some ds

/-- Whether a sign is negative, and what follows the sign. -/
def signed (cs : List Char) : Bool × List Char :=
  match cs with
  | '-' :: rest => (true, rest)
  | '+' :: rest => (false, rest)
  | _ => (false, cs)

/-- The number that digits of a base denote. -/
def ofBase (base : Nat) (ds : List Char) : Nat :=
  ds.foldl (fun n d => base * n + (hexValue? d).getD 0) 0

/-- A whole number written in a base other than ten. -/
def based? (base : Nat) (cs : List Char) : Option Json := do
  let ds ← ungroup? (fun c => (hexValue? c).any (· < base)) cs
  return .ofNat (ofBase base ds)

/-- A whole number. -/
def integer? (cs : List Char) : Option Json :=
  match cs with
  | '0' :: 'x' :: rest => based? 16 rest
  | '0' :: 'o' :: rest => based? 8 rest
  | '0' :: 'b' :: rest => based? 2 rest
  | _ => do
    let (negative, rest) := signed cs
    let magnitude : Int := ofDigits (← leading? rest)
    return .number (.whole (if negative then -magnitude else magnitude))

/-- The value of an exponent. -/
def exponent? (cs : List Char) : Option Int := do
  let (negative, rest) := signed cs
  let magnitude : Int := ofDigits (← ungroup? isDigit rest)
  return if negative then -magnitude else magnitude

/-- Cuts at the mark of an exponent. -/
def splitExponent (cs : List Char) : List Char × Option (List Char) :=
  match splitOnce 'e' (cs.map fun c => if c == 'E' then 'e' else c) with
  | some (before, after) => (before, some after)
  | none => (cs, none)

/-- The digits before and after the point. -/
def decimals? (cs : List Char) : Option (List Char × List Char) :=
  match splitOnce '.' cs with
  | some (before, after) => do return (← leading? before, ← ungroup? isDigit after)
  | none => do return (← leading? cs, [])

/-- A double, written with a point or an exponent or by its name. -/
def float? (cs : List Char) : Option Json := do
  let (negative, rest) := signed cs
  let magnitude ←
    if rest == ['i', 'n', 'f'] then some (1.0 / 0.0)
    else if rest == ['n', 'a', 'n'] then some (0.0 / 0.0)
    else do
      let (mantissa, exponent) := splitExponent rest
      let (whole, fraction) ← decimals? mantissa
      let exponent ← exponent.elim (some 0) exponent?
      some (Number.ofDecimal (ofDigits (whole ++ fraction)) (exponent - fraction.length))
  return .number (.real (if negative then -magnitude else magnitude))

/-! ### Dates and times -/

/-- A number of exactly so many digits within a range. -/
def field? (width low high : Nat) (cs : List Char) : Option Nat :=
  let value := ofDigits cs
  if cs.length == width && cs.all isDigit && low ≤ value && value ≤ high then some value else none

/-- The text of a date. -/
def date? (cs : List Char) : Option (List Char) :=
  match splitAll '-' cs with
  | [year, month, day] => do
    let date : Date := ⟨← field? 4 0 9999 year, ← field? 2 1 12 month, ← field? 2 1 31 day⟩
    if date.isValid then some cs else none
  | _ => none

/-- The text of the seconds of a time, in which a fraction has nine digits at most and no zeros
at its end. -/
def secondsText? (cs : List Char) : Option (List Char) := do
  let (seconds, fraction) := (splitOnce '.' cs).getD (cs, ['0'])
  let _ ← field? 2 0 60 seconds
  if fraction.isEmpty || !fraction.all isDigit then none
  else
    let kept := ((fraction.take 9).reverse.dropWhile (· == '0')).reverse
    some (if kept.isEmpty then seconds else seconds ++ '.' :: kept)

/-- The text of a time of day; seconds may be left out. -/
def timeText? (cs : List Char) : Option (List Char) :=
  match splitAll ':' cs with
  | [hour, minute] => do
    let _ ← field? 2 0 23 hour
    let _ ← field? 2 0 59 minute
    some cs
  | [hour, minute, seconds] => do
    let _ ← field? 2 0 23 hour
    let _ ← field? 2 0 59 minute
    some (hour ++ ':' :: minute ++ ':' :: (← secondsText? seconds))
  | _ => none

/-- The text of an offset behind its sign. -/
def offset? (cs : List Char) : Option (List Char) :=
  match splitAll ':' cs with
  | [hour, minute] => do
    let _ ← field? 2 0 23 hour
    let _ ← field? 2 0 59 minute
    some cs
  | _ => none

/-- The text of a time of day with the offset that may follow it. -/
def timeWithOffset? (cs : List Char) : Option (List Char) :=
  let time := cs.takeWhile fun c => isDigit c || c == ':' || c == '.'
  match cs.drop time.length with
  | [] => timeText? time
  | ['Z'] | ['z'] => do return (← timeText? time) ++ ['Z']
  | '+' :: rest => do return (← timeText? time) ++ '+' :: (← offset? rest)
  | '-' :: rest => do return (← timeText? time) ++ '-' :: (← offset? rest)
  | _ => none

/-- The text of a date, a time, or both with a `T` or a space between them. -/
def moment? (cs : List Char) : Option (List Char) :=
  match date? (cs.take 10), cs.drop 10 with
  | some date, [] => some date
  | some date, c :: rest =>
    if c == 'T' || c == 't' || c == ' ' then do return date ++ 'T' :: (← timeWithOffset? rest)
    else none
  | none, _ => timeText? cs

/-- The key under which the text of a date or time is kept. -/
def momentKey : String := "$__toml_private_datetime"

/-- A date or time as an object. -/
def momentJson? (cs : List Char) : Option Json :=
  (moment? cs).map fun text => .object [(momentKey, .string (String.ofList text))]

/-! ### Scalars -/

/-- A character of a value that is no string. -/
def isScalarChar (c : Char) : Bool :=
  isAlphanumeric c || c == '_' || c == '+' || c == '-' || c == '.' || c == ':'

/-- The value that a run of characters denotes. -/
def scalarOf? (cs : List Char) : Option Json :=
  if cs == ['t', 'r', 'u', 'e'] then some (.bool true)
  else if cs == ['f', 'a', 'l', 's', 'e'] then some (.bool false)
  else integer? cs <|> float? cs <|> momentJson? cs

/-- Cuts off the characters of a scalar. A time may stand behind a date and a space. -/
def cutScalar (cs : List Char) : List Char × List Char :=
  let run := cs.takeWhile isScalarChar
  match (date? run).isSome, cs.drop run.length with
  | true, ' ' :: c :: rest =>
    if isDigit c then
      let time := (c :: rest).takeWhile isScalarChar
      (run ++ ' ' :: time, (c :: rest).drop time.length)
    else (run, ' ' :: c :: rest)
  | _, rest => (run, rest)

/-- Reads a value that is no string, array or table. -/
def readScalar (cs : List Char) : Option (Json × List Char) :=
  let (run, rest) := cutScalar cs
  (scalarOf? run).map (·, rest)

end CatalogFeeds.Toml
