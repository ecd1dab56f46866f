import CatalogFeeds.Template.Names
import CatalogFeeds.Template.Value
/-!
Operators on template values.

Whole numbers are added, multiplied and so on exactly, and a result beyond 128 bits is a fault;
a double among the operands makes the operation one of doubles. Division always yields a double.
Remainders of whole numbers are never negative. Strings and lists can be repeated and joined.
Undefined values can neither be compared nor joined to a text, except for silent ones.
-/

namespace CatalogFeeds.Template.Value

/-- A fault that stands for an operation on values it is not made for. -/
def invalid {α : Type} : Except Fault α :=
  .error .invalidOperation

/-- A whole result, unless it is out of range. -/
def checked (n : Int) : Except Fault Value :=
  if leastWhole ≤ n && n ≤ greatestWhole then .ok (whole n) else invalid

/-- The items of a list or of a computed list. -/
def sequence? : Value → Option (List Value)
  | list items => some items
  | series items => some items
  | group key items => some [key, list items]
  | _ => Option.none

/-! ### Arithmetic of doubles -/

/-- A natural number times a power of two, which must be exactly representable. -/
def scaled (n : Nat) (exponent : Int) : Float :=
  let rec strip (fuel n : Nat) (exponent : Int) : Nat × Int :=
    match fuel with
    | 0 => (n, exponent)
    | fuel + 1 => if n != 0 && n % 2 == 0 then strip fuel (n / 2) (exponent + 1) else (n, exponent)
  let (n, exponent) := strip 2200 n exponent
  (Float.ofNat n).scaleB exponent

/-- The remainder of a division that is rounded towards zero. -/
def floatRemainder (a b : Float) : Float :=
  match Number.Binary.ofFloat? a, Number.Binary.ofFloat? b with
  | some x, some y =>
    if y.mantissa == 0 then 0.0 / 0.0
    else
      let exponent := min x.exponent y.exponent
      let left := x.mantissa * Number.twoTo (x.exponent - exponent).toNat
      let right := y.mantissa * Number.twoTo (y.exponent - exponent).toNat
      let magnitude := scaled (left % right) exponent
      if x.negative then -magnitude else magnitude
  | some _, Option.none => if b.isNaN then b else a
  | Option.none, _ => 0.0 / 0.0

/-- The double without its fractional part. -/
def floatTruncate (x : Float) : Float :=
  if x < 0 then x.ceil else x.floor

/-- The quotient of a division whose remainder is not negative. -/
def floatQuotient (a b : Float) : Float :=
  let quotient := floatTruncate (a / b)
  if floatRemainder a b < 0 then
    if b > 0 then quotient - 1 else quotient + 1
  else quotient

/-- The double rounded to a whole number, halves going away from zero. -/
def floatRound (x : Float) : Float :=
  match Number.Binary.ofFloat? x with
  | some b =>
    if b.isIntegral then x
    else
      let rounded := floatOfInt b.round
      if b.negative && rounded == 0 then -0.0 else rounded
  | Option.none => x

/-! ### Operators -/

/-- Joins lists, adds numbers, appends strings. -/
def add (a b : Value) : Except Fault Value :=
  match a.sequence?, b.sequence? with
  | some a, some b => .ok (series (a ++ b))
  | _, _ =>
    match common? a b with
    | some (.wholes a b) => checked (a + b)
    | some (.reals a b) => .ok (real (a + b))
    | some (.strings a b) => .ok (ofString (a ++ b))
    | Option.none => invalid

/-- An operation that is defined on numbers only. -/
def numeric (onWholes : Int → Int → Except Fault Value) (onReals : Float → Float → Float)
    (a b : Value) : Except Fault Value :=
  match common? a b with
  | some (.wholes a b) => onWholes a b
  | some (.reals a b) => .ok (real (onReals a b))
  | _ => invalid

/-- A whole number that counts repetitions. -/
def count? (value : Value) : Option Nat :=
  value.toWhole?.bind fun n => if Number.fitsUnsigned n then some n.toNat else Option.none

/-- Repeats a string or a list, or multiplies numbers. -/
def multiply (a b : Value) : Except Fault Value :=
  match a.string?, b.string? with
  | some s, _ => repeated s b
  | Option.none, some s => repeated s a
  | Option.none, Option.none =>
    match a.sequence?, b.sequence? with
    | some items, _ => repeatedItems items b
    | Option.none, some items => repeatedItems items a
    | Option.none, Option.none => numeric (fun a b => checked (a * b)) (· * ·) a b
where
  /-- A string, several times over. -/
  repeated (s : String) (times : Value) : Except Fault Value :=
    match times.count? with
    | some n => .ok (ofString (String.join (List.replicate n s)))
    | Option.none => invalid
  /-- The items of a list, several times over. -/
  repeatedItems (items : List Value) (times : Value) : Except Fault Value :=
    match times.count? with
    | some n => .ok (series (List.replicate n items).flatten)
    | Option.none => invalid

/-- Divides as doubles. -/
def divide (a b : Value) : Except Fault Value :=
  match a.toFloat?, b.toFloat? with
  | some a, some b => .ok (real (a / b))
  | _, _ => invalid

/-- Raises a whole number to a power, unless the result is out of range. -/
def wholePower (a b : Int) : Except Fault Value :=
  if b < 0 || (Number.twoTo 32 : Int) ≤ b then invalid
  else if a == 0 || a == 1 then checked (if b == 0 then 1 else a)
  else if a == -1 then checked (if b % 2 == 0 then 1 else -1)
  else if b > 128 then invalid
  else checked (Int.pow a b.toNat)

/-- The attributes of the state of a loop. -/
def iterationAttribute (index depth : Nat) (items : List Value) (name : String) : Value :=
  let length := items.length
  match name with
  | "index0" => whole index
  | "index" => whole (index + 1)
  | "length" => whole length
  | "revindex" => whole (length - index : Nat)
  | "revindex0" => whole (length - index - 1 : Nat)
  | "first" => bool (index == 0)
  | "last" => bool (index + 1 == length)
  | "depth" => whole (depth + 1)
  | "depth0" => whole depth
  | "previtem" => if index == 0 then undefined false else items.getD (index - 1) (undefined false)
  | "nextitem" => items.getD (index + 1) (undefined false)
  | _ => undefined false

/-- The attributes of a procedure. -/
def procedureAttribute (declaration : Procedure) (name : String) : Value :=
  match name with
  | "name" => ofString declaration.name
  | "arguments" => list (declaration.parameters.map ofString)
  | "caller" => bool (declaration.uses "caller")
  | _ => undefined false

/-- The entries of a map, of named arguments, or of something with named attributes. -/
def entries? : Value → Option (List (Value × Value))
  | map entries => some entries
  | keywords entries => some (entries.map fun (key, value) => (ofString key, value))
  | iteration index depth items =>
    some (iterationNames.map fun name => (ofString name, iterationAttribute index depth items name))
  | procedure declaration _ =>
    some (procedureNames.map fun name => (ofString name, procedureAttribute declaration name))
  | _ => Option.none

/-- Whether a value is contained in another one. -/
def contained (value container : Value) : Except Fault Bool :=
  match container with
  | undefined silent => if silent then .ok false else .error .undefinedValue
  | string s _ => .ok (Text.contains value.text.toList s.toList)
  | builtin _ => .ok false
  | container =>
    match container.sequence?, container.entries? with
    | some items, _ => .ok (items.any (equals · value))
    | Option.none, some entries => .ok (lookup value entries).isSome
    | Option.none, Option.none => invalid

/-- Compares two values. -/
def applyComparison (operator : Comparison) (a b : Value) : Except Fault Bool :=
  if a.isLoud || b.isLoud then .error .undefinedValue
  else match operator with
    | .equal => .ok (equals a b)
    | .unequal => .ok (!equals a b)
    | .less => .ok (order a b == .lt)
    | .lessEqual => .ok (order a b != .gt)
    | .greater => .ok (order a b == .gt)
    | .greaterEqual => .ok (order a b != .lt)
    | .contained => contained a b
    | .notContained => (contained a b).map (!·)

/-- Applies an operator to the values of both its operands. -/
def applyBinary (operator : BinaryOperator) (a b : Value) : Except Fault Value :=
  match operator with
  | .or => .ok (if a.isTrue then a else b)
  | .and => .ok (if a.isTrue then b else a)
  | .add => add a b
  | .subtract => numeric (fun a b => checked (a - b)) (· - ·) a b
  | .multiply => multiply a b
  | .divide => divide a b
  | .floorDivide =>
    numeric (fun a b => if b == 0 then invalid else checked (a / b)) floatQuotient a b
  | .remainder =>
    numeric (fun a b => if b == 0 then invalid else checked (a % b)) floatRemainder a b
  | .power => numeric wholePower Float.pow a b
  | .concatenate =>
    if a.isLoud || b.isLoud then .error .undefinedValue else .ok (ofString (a.text ++ b.text))

/-- The negative of a number. The number that only its negative is in range of stays as it is:
it is read as the magnitude of the least whole number. -/
def negate : Value → Except Fault Value
  | whole n =>
    if n == Number.twoTo 127 then .ok (whole n) else checked (-n)
  | real x => .ok (real (-x))
  | _ => invalid

/-! ### Parts of values -/

/-- The item of a value at a key, if there is one. -/
def item? (value key : Value) : Option Value :=
  match value with
  | map entries => lookup key entries
  | keywords entries => key.string?.bind (entries.lookup ·)
  | list items => key.toWhole?.bind (at? items ·)
  | series items => key.toWhole?.bind (at? items ·)
  | group shared items =>
    match key.string? with
    | some "grouper" => some shared
    | some "list" => some (list items)
    | _ => key.toWhole?.bind (at? [shared, list items] ·)
  | string s _ => key.toWhole?.bind (at? (chars s) ·)
  | iteration index depth items => key.string?.map (iterationAttribute index depth items)
  | value => value.entries?.bind (lookup key ·)

/-- The value at a path of attributes and indices, separated by points. -/
def path (value : Value) (dotted : String) : Except Fault Value :=
  (Text.splitAll '.' dotted.toList).foldlM (fun found segment =>
    if found.isUndefined then .error .undefinedValue
    else
      let key := match Text.natural? segment with
        | some n => whole n
        | Option.none => ofChars segment
      .ok ((found.item? key).getD (undefined false))) value

/-- A whole number within the given bounds. -/
def toWholeWithin? (low high : Int) (value : Value) : Option Int :=
  value.toWhole?.bind fun n => if low ≤ n && n ≤ high then some n else Option.none

/-- A whole number of 64 bits. -/
def toSigned? : Value → Option Int :=
  toWholeWithin? (-(Number.signedLimit : Int)) (Number.signedLimit - 1)

/-- A bound of a slice. -/
def bound? (value : Option Value) : Except Fault (Option Int) :=
  match value with
  | Option.none => .ok Option.none
  | some none => .ok Option.none
  | some value =>
    match value.toSigned? with
    | some n => .ok (some n)
    | Option.none => invalid

/-- Every `step`th element from `start` to before `stop`, both counted from the end when
negative; a negative step goes backwards, and then a `stop` at the first element includes it. -/
def sliceItems {α : Type} (xs : List α) (start stop : Option Int) (step : Int) : List α :=
  let length : Int := xs.length
  let clamp (low high n : Int) : Int := max low (min high n)
  let fromEnd (n : Int) : Int := if n < 0 then n + length else n
  let window :=
    if step > 0 then
      let first := clamp 0 length (fromEnd (start.getD 0))
      let last := clamp 0 length (fromEnd (stop.getD length))
      (xs.take last.toNat).drop first.toNat
    else
      let first := clamp 0 (length - 1) (fromEnd (start.getD (length - 1)))
      let last := clamp 0 length (fromEnd (stop.getD 0))
      ((xs.take (first + 1).toNat).drop (if last == 0 then 0 else last + 1).toNat).reverse
  (window.zipIdx.filter fun (_, i) => (i : Int) % step == 0).map (·.1)

/-- A part of a string or list. -/
def slice (value : Value) (start stop step : Option Value) : Except Fault Value := do
  if value.isLoud then throw .undefinedValue
  let start ← bound? start
  let stop ← bound? stop
  let step := (← bound? step).getD 1
  if step == 0 then throw .invalidOperation
  match value with
  | string s _ => return ofChars (sliceItems s.toList start stop step)
  | undefined _ => return list []
  | none => return list []
  | list items => return series (sliceItems items start stop step)
  | series items => return series (sliceItems items start stop step)
  | group key items => return series (sliceItems [key, list items] start stop step)
  | _ => throw .invalidOperation

/-! ### Escaping -/

/-- The written form of a character in markup. -/
def escapeMarkup (c : Char) : List Char :=
  match c with
  | '<' => "&lt;".toList
  | '>' => "&gt;".toList
  | '&' => "&amp;".toList
  | '"' => "&quot;".toList
  | '\'' => "&#x27;".toList
  | '/' => "&#x2f;".toList
  | _ => [c]

/-- The text of a value as it is written into markup. -/
def markupText (value : Value) : String :=
  match value with
  | string s true => s
  | value => String.ofList (value.text.toList.flatMap escapeMarkup)

end CatalogFeeds.Template.Value
