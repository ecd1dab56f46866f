import CatalogFeeds.Json.Basic
import CatalogFeeds.Text.Quoted
import CatalogFeeds.Time.Duration
import CatalogFeeds.Time.Reader
/-!
Reading typed values from JSON.

A record is read from an object, or from an array that lists its fields in order. Members are
looked at in the order of their keys and the first one that does not fit is reported; keys
without a field are passed over. What a message says about a value depends a little on the
format that the value was written in.
-/

namespace CatalogFeeds

open CatalogFeeds.Text

/-- The formats in which settings are written. -/
inductive DataFormat where
  | json
  | toml
  deriving DecidableEq, Repr

/-- Why a value does not have the shape that is wanted. -/
inductive ShapeError where
  | wrongType (found : Json) (expected : String)
  | negative (found : Int)
  | missingField (name : String)
  | duplicateField (name : String)
  | unknownVariant (name : String) (known : List String)
  | noVariant (found : Json)
  | wrongLength (length : Nat) (expected : String)
  | badTime (error : Time.TimeError)
  | badDuration (text : String) (error : Time.DurationError)
  | negativeDuration (seconds : Int)

/-- What is added to a whole number in a message when it does not fit a 64-bit word. -/
def wideText (n : Int) : String :=
  if Number.fitsSigned n || Number.fitsUnsigned n then ""
  else if n < (Number.twoTo 127 : Int) then " as i128"
  else " as u128"

/-- What a value is called in a message. -/
def Json.typeText (format : DataFormat) : Json → String
  | null => "null"
  | bool b => "boolean `" ++ (if b then "true" else "false") ++ "`"
  | number (.whole n) =>
    "integer `" ++ toString n ++ "`" ++ wideText n
  | number (.real x) =>
    let digits := match format with
      | .json => Number.scientificOutside x
      | .toml => Number.positional x
    "floating point `" ++ digits ++ "`"
  | string s => "string " ++ String.ofList (quoted s.toList)
  | array _ => "sequence"
  | object _ => "map"

/-- The names of variants as alternatives. -/
def alternatives (names : List String) : String :=
  match names.map fun name => "`" ++ name ++ "`" with
  | [a] => a
  | [a, b] => a ++ " or " ++ b
  | quotedNames => "one of " ++ ", ".intercalate quotedNames

/-- The sentence that reports an error. -/
def ShapeError.message (format : DataFormat) : ShapeError → String
  | wrongType found expected =>
    "invalid type: " ++ found.typeText format ++ ", expected " ++ expected
  | negative found => "invalid value: integer `" ++ toString found ++ "`, expected u64"
  | missingField name => "missing field `" ++ name ++ "`"
  | duplicateField name => "duplicate field `" ++ name ++ "`"
  | unknownVariant name known =>
    "unknown variant `" ++ name ++ "`, expected " ++ alternatives known
  | noVariant found =>
    match format, found with
    | .toml, _ => "wanted string or table"
    | .json, .object _ => "invalid value: map, expected map with a single key"
    | .json, _ => "invalid type: " ++ found.typeText format ++ ", expected string or map"
  | wrongLength length expected =>
    "invalid length " ++ toString length ++ ", expected " ++ expected
  | badTime error => error.message
  | badDuration text error => "Invalid duration '" ++ text ++ "': " ++ error.message
  | negativeDuration seconds =>
    "Invalid duration '" ++ toString seconds ++ "': must not be negative"

/-! ### Single values -/

namespace Json

/-- Reads a string. -/
def asText : Json → Except ShapeError String
  | string s => .ok s
  | value => .error (.wrongType value "a string")

/-- Reads the path of a file. -/
def asPath : Json → Except ShapeError String
  | string s => .ok s
  | value => .error (.wrongType value "path string")

/-- Reads a truth value. -/
def asBool : Json → Except ShapeError Bool
  | bool b => .ok b
  | value => .error (.wrongType value "a boolean")

/-- Reads a number that fits an unsigned 64-bit word. -/
def asUnsigned : Json → Except ShapeError Nat
  | number (.whole n) => if n < 0 then .error (.negative n) else .ok n.toNat
  | value => .error (.wrongType value "u64")

/-- Reads a value that may be null. -/
def asOption {α : Type} (read : Json → Except ShapeError α) : Json → Except ShapeError (Option α)
  | null => .ok none
  | value => (read value).map some

/-- Reads a list. -/
def asList {α : Type} (read : Json → Except ShapeError α) : Json → Except ShapeError (List α)
  | array items => items.mapM read
  | value => .error (.wrongType value "a sequence")

/-- Reads texts by their keys. -/
def asTexts : Json → Except ShapeError (List (String × String))
  | object members => members.mapM fun (key, value) => value.asText.map (key, ·)
  | value => .error (.wrongType value "a map")

/-- Reads an instant. -/
def asInstant : Json → Except ShapeError Time.Instant
  | string s => (Time.Instant.relaxed? s.toList).mapError .badTime
  | value => .error (.wrongType value "an RFC 3339 formatted date and time string")

/-- Reads a duration: a number of seconds, or a text. -/
def asDuration : Json → Except ShapeError Time.Duration
  | string s => (Time.Duration.parse s).mapError (.badDuration s)
  | number (.whole n) =>
    if Number.fitsUnsigned n then .ok ⟨n.toNat, 0⟩
    else if Number.fitsSigned n then .error (.negativeDuration n)
    else .error (.wrongType (number (.whole n)) durationText)
  | value => .error (.wrongType value durationText)
where
  /-- What stands for a duration. -/
  durationText : String :=
    "a duration as seconds (number) or human-readable string (e.g. '1440h', '30s', '1h30m')"

/-- Reads the name of one of several variants. -/
def asVariant {α : Type} (variants : List (String × α)) : Json → Except ShapeError α
  | string s => find s
  | object [(key, value)] => do
    let found ← find key
    if value.isNull then return found else throw (.wrongType value "unit")
  | value => .error (.noVariant value)
where
  /-- The variant of a name. -/
  find (name : String) : Except ShapeError α :=
    match variants.lookup name with
    | some found => .ok found
    | none => .error (.unknownVariant name (variants.map (·.1)))

end Json

/-! ### Records -/

/-- How a record is read: its name, its fields in order and those among them that must not be
missing, further names of fields, the record in which nothing is set, and how a field is set. -/
structure RecordShape (α : Type) where
  name : String
  fields : List String
  required : List String := []
  aliases : List (String × String) := []
  blank : α
  set : α → String → Json → Except ShapeError α

namespace RecordShape

variable {α : Type}

/-- The name of the field that a key stands for. -/
def fieldOf (shape : RecordShape α) (key : String) : String :=
  (shape.aliases.lookup key).getD key

/-- Sets the fields that members name, in their order; `seen` holds the fields already set. -/
def setMembers (shape : RecordShape α) (record : α) (seen : List String) :
    List (String × Json) → Except ShapeError α
  | [] => .ok record
  | (key, value) :: rest =>
    let field := shape.fieldOf key
    if !shape.fields.contains field then shape.setMembers record seen rest
    else if seen.contains field then .error (.duplicateField field)
    else do shape.setMembers (← shape.set record field value) (field :: seen) rest

/-- Sets the fields in their order. -/
def setItems (shape : RecordShape α) (record : α) : List String → List Json → Except ShapeError α
  | field :: fields, value :: values => do
    shape.setItems (← shape.set record field value) fields values
  | _, _ => .ok record

/-- How many fields a record has. -/
def size (shape : RecordShape α) : String :=
  let n := shape.fields.length
  "struct " ++ shape.name ++ " with " ++ toString n ++ if n == 1 then " element" else " elements"

/-- Reads the members of an object. -/
def readMembers (shape : RecordShape α) (members : List (String × Json)) : Except ShapeError α := do
  let record ← shape.setMembers shape.blank [] members
  match shape.required.find? fun field => (Members.get? field members).isNone with
  | some field => throw (.missingField field)
  | none => return record

/-- Reads a record. -/
def read (shape : RecordShape α) : Json → Except ShapeError α
  | .object members => shape.readMembers members
  | .array items => do
    if items.isEmpty && !shape.required.isEmpty then throw (.wrongLength 0 shape.size)
    let record ← shape.setItems shape.blank shape.fields items
    if shape.fields.length < items.length then
      throw (.wrongLength items.length "fewer elements in array")
    return record
  | value => .error (.wrongType value ("struct " ++ shape.name))

end RecordShape

end CatalogFeeds
