import CatalogFeeds.Members
import CatalogFeeds.Number.Layout
/-!
JSON values.

Numbers keep apart whole numbers, as far as they fit a signed or unsigned 64-bit word, and
doubles. An object is a list of members in the order of their keys.
-/

namespace CatalogFeeds

/-- A JSON number: a whole number, or a double. -/
inductive JsonNumber where
  | whole (value : Int)
  | real (value : Float)

/-- A JSON value. -/
inductive Json where
  | null
  | bool (value : Bool)
  | number (value : JsonNumber)
  | string (value : String)
  | array (items : List Json)
  | object (members : List (String × Json))

instance : Inhabited Json := ⟨.null⟩

namespace JsonNumber

/-- The number as a double. -/
def toFloat : JsonNumber → Float
  | whole value => if value < 0 then -(Float.ofNat value.natAbs) else Float.ofNat value.natAbs
  | real value => value

/-- The text of a number in data. -/
def text : JsonNumber → String
  | whole value => toString value
  | real value => Number.scientificOutside value

/-- The largest whole number that is kept as one. -/
def largestWhole : Nat := Number.wordLimit - 1

/-- The number as an unsigned 64-bit word. -/
def toUnsigned? : JsonNumber → Option Nat
  | whole value => if 0 ≤ value then some value.toNat else none
  | real _ => none

/-- The number as a signed 64-bit word. -/
def toSigned? : JsonNumber → Option Int
  | whole value => if value < (Number.signedLimit : Int) then some value else none
  | real _ => none

end JsonNumber

namespace Json

/-- The object with the given entries, of which a later one replaces an earlier one. -/
def ofEntries (entries : List (String × Json)) : Json :=
  object (Members.ofList entries)

/-- The number of a natural number. -/
def ofNat (n : Nat) : Json :=
  number (.whole n)

/-- The string, or null. -/
def ofString? : Option String → Json
  | some s => string s
  | none => null

/-- Whether the value is null. -/
def isNull : Json → Bool
  | null => true
  | _ => false

/-- The value of a key of an object; any other value has no keys. -/
def get? (key : String) : Json → Option Json
  | object members => Members.get? key members
  | _ => none

/-- The items of an array. -/
def items? : Json → Option (List Json)
  | array items => some items
  | _ => none

/-- The text of a string. -/
def string? : Json → Option String
  | string s => some s
  | _ => none

/-- What a value is, with its article. -/
def describe : Json → String
  | null => "nothing"
  | bool _ => "a boolean"
  | number _ => "a number"
  | string _ => "a string"
  | array _ => "an array"
  | object _ => "an object"

end Json

end CatalogFeeds
