import CatalogFeeds.Template.Tree
import CatalogFeeds.Json.Basic
import CatalogFeeds.Text.Quoted
/-!
Values of template expressions.

Besides the values of data there are the undefined value, lists that are computed on the fly,
functions, the state of a loop, and cells that assignments reach into. An undefined value is
silent when it stands for a missing `else`: it may be written, as nothing. Values of different
kinds are ordered by kind; whole numbers, doubles and truth values compare as numbers.
-/

namespace CatalogFeeds.Template

/-- The functions every template can call. -/
inductive Builtin where
  | range
  | dict
  | debug
  | namespaceOf
  deriving DecidableEq, Repr

/-- A value of a template expression. -/
inductive Value where
  | undefined (silent : Bool)
  | none
  | bool (value : Bool)
  | whole (value : Int)
  | real (value : Float)
  | string (value : String) (safe : Bool)
  | list (items : List Value)
  | series (items : List Value)
  | group (key : Value) (items : List Value)
  | map (entries : List (Value × Value))
  | keywords (entries : List (String × Value))
  | builtin (function : Builtin)
  | procedure (declaration : Procedure) (scopes : Nat)
  | iteration (index : Nat) (depth : Nat) (items : List Value)
  | cell (index : Nat)

instance : Inhabited Value := ⟨.none⟩

namespace Value

/-- A string that may still need escaping. -/
def ofString (s : String) : Value :=
  string s false

/-- A string of characters. -/
def ofChars (cs : List Char) : Value :=
  ofString (String.ofList cs)

/-- The value of a constant. -/
def ofLiteral : Literal → Value
  | .none => none
  | .bool value => bool value
  | .whole value => whole value
  | .real value => real value
  | .string value => ofString value

/-! ### Kinds and order -/

/-- The rank of a value's kind in the order of values. -/
def rank : Value → Nat
  | undefined _ => 0
  | none => 1
  | bool _ => 2
  | whole _ => 3
  | real _ => 3
  | string _ _ => 4
  | list _ => 6
  | group _ _ => 6
  | map _ => 7
  | keywords _ => 7
  | series _ => 8
  | builtin _ => 9
  | procedure _ _ => 7
  | iteration _ _ _ => 7
  | cell _ => 7

/-- A whole number as a double. -/
def floatOfInt (n : Int) : Float :=
  if n < 0 then -(Float.ofNat n.natAbs) else Float.ofNat n.natAbs

/-- The least whole number that arithmetic yields. -/
def leastWhole : Int := -(Number.twoTo 127 : Int)

/-- The greatest whole number that arithmetic yields. -/
def greatestWhole : Int := (Number.twoTo 127 : Int) - 1

/-- The whole number a value stands for: itself within the range of arithmetic, a truth value,
or an integral double within 64 bits, of which the bound itself stands for the number below. -/
def toWhole? : Value → Option Int
  | bool value => some (if value then 1 else 0)
  | whole value => if value ≤ greatestWhole then some value else Option.none
  | real value => do
    let b ← Number.Binary.ofFloat? value
    let n := b.truncate
    guard (b.isIntegral && -(Number.signedLimit : Int) ≤ n && n ≤ Number.signedLimit)
    return min n (Number.signedLimit - 1)
  | _ => Option.none

/-- The double a value stands for. -/
def toFloat? : Value → Option Float
  | bool value => some (if value then 1.0 else 0.0)
  | whole value => some (floatOfInt value)
  | real value => some value
  | _ => Option.none

/-- Two values brought to a common type. -/
inductive Common where
  | wholes (left right : Int)
  | reals (left right : Float)
  | strings (left right : String)

/-- Brings two numbers or two strings to a common type. Two whole numbers above the range of
arithmetic wrap around; one of them has nothing in common with a number within it. -/
def common? (a b : Value) : Option Common :=
  match a, b with
  | string a _, string b _ => some (.strings a b)
  | real a, b => b.toFloat?.map (.reals a ·)
  | a, real b => a.toFloat?.map (.reals · b)
  | whole a, whole b =>
    match decide (a ≤ greatestWhole), decide (b ≤ greatestWhole) with
    | true, true => some (.wholes a b)
    | false, false => some (.wholes (a - Number.twoTo 128) (b - Number.twoTo 128))
    | _, _ => Option.none
  | a, b => do
    let a ← a.toWhole?
    let b ← b.toWhole?
    return .wholes a b

/-- The place of a double among all doubles, in which also the sign of zero and NaN count. -/
def floatPlace (x : Float) : Int :=
  let bits := x.toBits.toNat
  if bits < Number.signedLimit then bits
  else -((bits - Number.signedLimit : Nat) : Int) - 1

/-- The order of doubles; with a NaN among them they are ordered by their places. -/
def compareFloats (a b : Float) : Ordering :=
  if a < b then .lt
  else if a > b then .gt
  else if a == b then .eq
  else compare (floatPlace a) (floatPlace b)

/-- The order of a whole number and a double, by their exact values. -/
def compareMixed (n : Int) (x : Float) : Ordering :=
  match Number.Binary.ofFloat? x with
  | some b => b.compareWhole n
  | Option.none => compareFloats (floatOfInt n) x

/-- A truth value as the number it counts as; anything else as it is. -/
def asNumber : Value → Value
  | bool value => whole (if value then 1 else 0)
  | value => value

/-- The order of two numbers or strings; anything else counts as equal. -/
def compareScalars (a b : Value) : Ordering :=
  match a.asNumber, b.asNumber with
  | whole a, whole b => compare a b
  | real a, real b => compareFloats a b
  | whole a, real b => compareMixed a b
  | real a, whole b => (compareMixed b a).swap
  | string a _, string b _ => compare a b
  | _, _ => .eq

/-- Equality of two numbers or strings; anything else is unequal. -/
def equalScalars (a b : Value) : Bool :=
  match a.asNumber, b.asNumber with
  | whole a, whole b => a == b
  | real a, real b => a == b
  | whole a, real b => !b.isNaN && compareMixed a b == .eq
  | real a, whole b => !a.isNaN && compareMixed b a == .eq
  | string a _, string b _ => a == b
  | _, _ => false

mutual

/-- The order of values. -/
def order : Value → Value → Ordering
  | list a, list b => orderLists a b
  | series a, series b => orderLists a b
  | group k a, group l b =>
    match order k l with
    | .eq => orderLists a b
    | unequal => unequal
  | map a, map b => orderEntries a b
  | a, b =>
    match compare a.rank b.rank with
    | .eq => compareScalars a b
    | unequal => unequal

/-- The order of lists, item by item. -/
def orderLists : List Value → List Value → Ordering
  | [], [] => .eq
  | [], _ :: _ => .lt
  | _ :: _, [] => .gt
  | a :: as, b :: bs =>
    match order a b with
    | .eq => orderLists as bs
    | unequal => unequal

/-- The order of maps, entry by entry. -/
def orderEntries : List (Value × Value) → List (Value × Value) → Ordering
  | [], [] => .eq
  | [], _ :: _ => .lt
  | _ :: _, [] => .gt
  | (k, v) :: as, (l, w) :: bs =>
    match order k l with
    | .eq =>
      match order v w with
      | .eq => orderEntries as bs
      | unequal => unequal
    | unequal => unequal

end

mutual

/-- Equality of values: numbers by what they denote, lists item by item. -/
def equals : Value → Value → Bool
  | none, none => true
  | undefined _, undefined _ => true
  | list a, list b => equalLists a b
  | list a, series b => equalLists a b
  | series a, list b => equalLists a b
  | series a, series b => equalLists a b
  | group k a, group l b => equals k l && equalLists a b
  | map a, map b => equalEntries a b
  | cell a, cell b => a == b
  | builtin a, builtin b => a == b
  | a, b => equalScalars a b

/-- Equality of lists. -/
def equalLists : List Value → List Value → Bool
  | [], [] => true
  | a :: as, b :: bs => equals a b && equalLists as bs
  | _, _ => false

/-- Equality of maps, whose entries are in the order of their keys. -/
def equalEntries : List (Value × Value) → List (Value × Value) → Bool
  | [], [] => true
  | (k, v) :: as, (l, w) :: bs => equals k l && equals v w && equalEntries as bs
  | _, _ => false

end

/-! ### Maps -/

/-- The value of a key, which is found by its place in the order. -/
def lookup (key : Value) (entries : List (Value × Value)) : Option Value :=
  (entries.find? fun entry => order entry.1 key == .eq).map (·.2)

/-- Sets a key, in the order of the keys. -/
def insert (key value : Value) : List (Value × Value) → List (Value × Value)
  | [] => [(key, value)]
  | (k, v) :: rest =>
    match order key k with
    | .lt => (key, value) :: (k, v) :: rest
    | .eq => (k, value) :: rest
    | .gt => (k, v) :: insert key value rest

/-- The map with the given entries, of which a later one replaces an earlier one. -/
def ofEntries (entries : List (Value × Value)) : Value :=
  map (entries.foldl (fun found (k, v) => insert k v found) [])

mutual

/-- The value of data. -/
def ofJson : Json → Value
  | .null => none
  | .bool value => bool value
  | .number (.whole value) => whole value
  | .number (.real value) => real value
  | .string value => ofString value
  | .array items => list (ofJsonItems items)
  | .object members => map (ofJsonMembers members)

/-- The values of a list of data. -/
def ofJsonItems : List Json → List Value
  | [] => []
  | item :: rest => ofJson item :: ofJsonItems rest

/-- The entries of an object. -/
def ofJsonMembers : List (String × Json) → List (Value × Value)
  | [] => []
  | (key, value) :: rest => (ofString key, ofJson value) :: ofJsonMembers rest

end

/-! ### Cells -/

/-- The value of a cell with the given contents, of which an earlier one hides a later one. -/
def ofCell (entries : List (String × Value)) : Value :=
  ofEntries (entries.reverse.map fun (name, value) => (ofString name, value))

/-- The value with its contents in place of every cell in it, down to a depth; a cell may hold
itself. -/
def settle (cells : List (List (String × Value))) : Nat → Value → Value
  | 0, value => value
  | depth + 1, value =>
    match value with
    | cell index =>
      ofCell ((cells.getD index []).map fun (name, value) => (name, settle cells depth value))
    | list items => list (items.map (settle cells depth))
    | series items => series (items.map (settle cells depth))
    | map entries =>
      map (entries.map fun (key, value) => (settle cells depth key, settle cells depth value))
    | keywords entries =>
      keywords (entries.map fun (name, value) => (name, settle cells depth value))
    | value => value

/-! ### Text -/

mutual

/-- The text of a value inside a list or map. -/
def inner : Value → String
  | undefined _ => "undefined"
  | none => "None"
  | bool value => if value then "True" else "False"
  | whole value => toString value
  | real value => Number.compact value
  | string value _ => String.ofList (Text.quoted value.toList)
  | list items => "[" ++ ", ".intercalate (innerItems items) ++ "]"
  | series items => "[" ++ ", ".intercalate (innerItems items) ++ "]"
  | group key items =>
    "[" ++ inner key ++ ", [" ++ ", ".intercalate (innerItems items) ++ "]]"
  | map entries => "\x7b" ++ ", ".intercalate (innerEntries entries) ++ "\x7d"
  | keywords entries => "\x7b" ++ ", ".intercalate (innerKeywords entries) ++ "\x7d"
  | builtin function =>
    match function with
    | .range => "range"
    | .dict => "dict"
    | .debug => "debug"
    | .namespaceOf => "namespace"
  | procedure declaration _ => "<macro " ++ declaration.name ++ ">"
  | iteration index _ items =>
    "<loop " ++ toString index ++ "/" ++ toString items.length ++ ">"
  | cell _ => "\x7b\x7d"

/-- The texts of the items of a list. -/
def innerItems : List Value → List String
  | [] => []
  | item :: rest => inner item :: innerItems rest

/-- The texts of the entries of a map. -/
def innerEntries : List (Value × Value) → List String
  | [] => []
  | (key, value) :: rest => (inner key ++ ": " ++ inner value) :: innerEntries rest

/-- The texts of named arguments. -/
def innerKeywords : List (String × Value) → List String
  | [] => []
  | (key, value) :: rest =>
    (String.ofList (Text.quoted key.toList) ++ ": " ++ inner value) :: innerKeywords rest

end

/-- The text of a value as it is written out. A double that stands alone has no exponent. -/
def text : Value → String
  | undefined _ => ""
  | real value => Number.positional value
  | string value _ => value
  | value => inner value

/-- The start of a line at the given depth of indentation. -/
def indentation (depth : Nat) : String :=
  String.ofList (List.replicate (4 * depth) ' ')

mutual

/-- The text of a value inside a list or map, over several lines. -/
def pretty (depth : Nat) : Value → String
  | list [] => "[]"
  | list items => "[\n" ++ prettyItems (depth + 1) items ++ indentation depth ++ "]"
  | series [] => "[]"
  | series items => "[\n" ++ prettyItems (depth + 1) items ++ indentation depth ++ "]"
  | group key [] =>
    "[\n" ++ indentation (depth + 1) ++ pretty (depth + 1) key ++ ",\n" ++
      indentation (depth + 1) ++ "[],\n" ++ indentation depth ++ "]"
  | group key items =>
    "[\n" ++ indentation (depth + 1) ++ pretty (depth + 1) key ++ ",\n" ++
      indentation (depth + 1) ++ "[\n" ++ prettyItems (depth + 2) items ++
      indentation (depth + 1) ++ "],\n" ++ indentation depth ++ "]"
  | map [] => "\x7b\x7d"
  | map entries => "\x7b\n" ++ prettyEntries (depth + 1) entries ++ indentation depth ++ "\x7d"
  | value => inner value

/-- The items of a list, each on a line of its own. -/
def prettyItems (depth : Nat) : List Value → String
  | [] => ""
  | item :: rest =>
    indentation depth ++ pretty depth item ++ ",\n" ++ prettyItems depth rest

/-- The entries of a map, each on a line of its own. -/
def prettyEntries (depth : Nat) : List (Value × Value) → String
  | [] => ""
  | (key, value) :: rest =>
    indentation depth ++ pretty depth key ++ ": " ++ pretty depth value ++ ",\n" ++
      prettyEntries depth rest

end

/-! ### Truth and iteration -/

/-- Whether a value counts as true. -/
def isTrue : Value → Bool
  | undefined _ => false
  | none => false
  | bool value => value
  | whole value => value != 0
  | real value => value != 0.0
  | string value _ => !value.isEmpty
  | list items => !items.isEmpty
  | series items => !items.isEmpty
  | map entries => !entries.isEmpty
  | keywords entries => !entries.isEmpty
  | _ => true

/-- Whether a value is undefined. -/
def isUndefined : Value → Bool
  | undefined _ => true
  | _ => false

/-- Whether using the value is a fault. -/
def isLoud : Value → Bool
  | undefined silent => !silent
  | _ => false

/-- The text of a string. -/
def string? : Value → Option String
  | string value _ => some value
  | _ => Option.none

/-- The characters of a string, one string each. -/
def chars (s : String) : List Value :=
  s.toList.map fun c => ofChars [c]

/-- The names of the attributes of a loop's state. -/
def iterationNames : List String := [
  "index0", "index", "length", "revindex", "revindex0", "first", "last", "depth", "depth0",
  "previtem", "nextitem"]

/-- The names of the attributes of a procedure. -/
def procedureNames : List String :=
  ["name", "arguments", "caller"]

/-- The values that a loop over a value goes through. -/
def items? : Value → Option (List Value)
  | undefined _ => some []
  | none => some []
  | string value _ => some (chars value)
  | list items => some items
  | series items => some items
  | group key items => some [key, list items]
  | map entries => some (entries.map (·.1))
  | keywords entries => some (entries.map fun entry => ofString entry.1)
  | iteration _ _ _ => some (iterationNames.map ofString)
  | procedure _ _ => some (procedureNames.map ofString)
  | _ => Option.none

/-- The number of items or characters of a value. -/
def length? : Value → Option Nat
  | string value _ => some value.toList.length
  | list items => some items.length
  | series items => some items.length
  | group _ _ => some 2
  | map entries => some entries.length
  | keywords entries => some entries.length
  | iteration _ _ _ => some iterationNames.length
  | procedure _ _ => some procedureNames.length
  | _ => Option.none

/-- The item at a position, counted from the end when negative. -/
def at? (items : List Value) (index : Int) : Option Value :=
  if 0 ≤ index then items[index.toNat]?
  else
    let fromEnd := index + items.length
    if 0 ≤ fromEnd then items[fromEnd.toNat]? else Option.none

end Value

end CatalogFeeds.Template
