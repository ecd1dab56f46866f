import CatalogFeeds.Record.Field
import CatalogFeeds.Json.Basic
import CatalogFeeds.Time.Reader
/-!
Bringing values into the shape a field wants.

Catalogues write flags as words, durations as clock times and dates in several grammars. Coercion
turns such values into the one form a record is read from. It gives `none` when a value says
nothing for its field, and leaves alone what it does not know how to treat, so that reading the
record reports it.
-/

namespace CatalogFeeds

open CatalogFeeds.Text

/-- What kind of title a channel is. -/
inductive Medium where
  | podcast
  | book
  deriving DecidableEq, Repr

namespace Medium

/-- The name of a kind in records. -/
def name : Medium → String
  | podcast => "podcast"
  | book => "book"

/-- The kind that a catalogue calls by some word. -/
def parse? (text : String) : Option Medium :=
  match lowercase (trimmed text) with
  | "podcast" => some podcast
  | "book" => some book
  | "audiobook" => some book
  | _ => none

end Medium

/-! ### Texts with a meaning -/

/-- The truth value a word stands for. -/
def flag? (text : String) : Option Bool :=
  let word := lowercase (trimmed text)
  if ["yes", "true", "1", "y", "on"].contains word then some true
  else if ["no", "false", "0", "n", "off", "", "clean"].contains word then some false
  else none

/-- Reads a number of at most 64 bits. -/
def word? (cs : List Char) : Option Nat :=
  (natural? cs).bind fun n => if n < Number.wordLimit then some n else none

/-- Adds up the parts of a clock time, each worth sixty of the next; no step may overflow a
64-bit word. -/
def clockSeconds? (parts : List (List Char)) : Option Nat :=
  parts.foldlM (fun total part => do
    let n ← word? (trim part)
    let sum := total * 60 + n
    if sum < Number.wordLimit then some sum else none) 0

/-- Reads plain seconds, or a clock time of two or three parts. -/
def seconds? (text : String) : Option Nat :=
  let cs := trim text.toList
  match word? cs with
  | some n => some n
  | none =>
    let parts := splitAll ':' cs
    if 2 ≤ parts.length && parts.length ≤ 3 then clockSeconds? parts else none

/-- The seconds a number stands for: rounded to the nearest, halves upwards, and kept within a
64-bit word. Negative numbers stand for none. -/
def JsonNumber.seconds? : JsonNumber → Option Nat
  | .whole value => if 0 ≤ value then some value.toNat else none
  | .real value =>
    if value ≥ 0 then
      (Number.Binary.ofFloat? value).map fun b => min b.round.toNat (Number.wordLimit - 1)
    else none

/-! ### Coercion -/

namespace FieldType

/-- Brings a value into the shape of a field of the given kind. -/
def coerce (kind : FieldType) (value : Json) : Option Json :=
  match kind, value with
  | text, .number n => some (.string n.text)
  | text, .bool b => some (.string (if b then "true" else "false"))
  | text, _ => some value
  | flag, .string s => some ((flag? s).elim value .bool)
  | flag, .number n => some (.bool (n.toFloat != 0.0))
  | flag, _ => some value
  | seconds, .number n => n.seconds?.map .ofNat
  | seconds, .string s => (CatalogFeeds.seconds? s).map .ofNat
  | seconds, _ => some value
  | timestamp, .string s => (Time.Instant.parse? s).map (.string ·.textWithOffset)
  | timestamp, .number n =>
    (n.toSigned?.bind Time.Instant.ofSeconds?).map (.string ·.textWithOffset)
  | timestamp, _ => some value
  | categories, .string s => some (.array [.object [("text", .string s)]])
  | categories, _ => some value
  | medium, .string s => (Medium.parse? s).map (.string ·.name)
  | medium, _ => none

end FieldType

end CatalogFeeds
