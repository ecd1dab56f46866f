import CatalogFeeds.Template.Operation
import CatalogFeeds.Text.Case
import CatalogFeeds.Text.Percent
/-!
Filters and tests of templates.

A filter is a function of the value before the bar and of further arguments, the last of which
may carry named ones. Arguments are read one after another; a missing, a surplus and an
undefined argument are different faults. Filters that apply other filters or tests to every item
of a list are bounded in how deeply they may nest.
-/

namespace CatalogFeeds.Template

open CatalogFeeds.Text

/-! ### Reading arguments -/

/-- Reads arguments from the front of a list. -/
abbrev Args (α : Type) := StateT (List Value) (Except Fault) α

namespace Args

/-- The next argument as it is, undefined or not; named arguments are no argument. -/
def any? : Args (Option Value) := do
  match ← get with
  | [] => return none
  | value :: rest =>
    set rest
    return some value

/-- An argument that may be undefined. -/
def any : Args Value := do
  match ← any? with
  | some value => return value
  | none => throw .missingArgument

/-- An argument that must be defined. -/
def value : Args Value := do
  let value ← any
  if value.isLoud then throw .undefinedValue
  return value

/-- An optional argument; an undefined value and `none` stand for a missing one. -/
def value? : Args (Option Value) := do
  match ← any? with
  | some value => return match value with
    | .undefined _ => none
    | .none => none
    | value => some value
  | none => return none

/-- The text of a value; named arguments have none. -/
def textOf : Value → Args String
  | .keywords _ => throw .invalidOperation
  | value => pure value.text

/-- An argument that is written as text. -/
def text : Args String := do
  textOf (← value)

/-- An optional argument that is written as text. -/
def text? : Args (Option String) := do
  match ← value? with
  | some value => some <$> textOf value
  | none => return none

/-- A whole number within the given bounds. -/
def wholeWithin (low high : Int) (value : Value) : Args Int :=
  match value.toWholeWithin? low high with
  | some n => pure n
  | none => throw .invalidOperation

/-- An argument that counts something. -/
def count : Args Nat := do
  let n ← wholeWithin 0 (Number.wordLimit - 1) (← value)
  return n.toNat

/-- A whole number of 64 bits. -/
def signedOf : Value → Args Int :=
  wholeWithin (-(Number.signedLimit : Int)) (Number.signedLimit - 1)

/-- An optional whole number of 64 bits. -/
def signed? : Args (Option Int) := do
  match ← value? with
  | some value => some <$> signedOf value
  | none => return none

/-- An optional whole number of 32 bits. -/
def short? : Args (Option Int) := do
  match ← value? with
  | some value =>
    some <$> wholeWithin (-(Number.twoTo 31 : Int)) ((Number.twoTo 31 : Int) - 1) value
  | none => return none

/-- A truth value. -/
def flagOf : Value → Args Bool
  | .bool value => pure value
  | _ => throw .invalidOperation

/-- An optional truth value, which is false when missing. -/
def flag : Args Bool := do
  match ← value? with
  | some value => flagOf value
  | none => return false

/-- An argument that is a string. -/
def string : Args String := do
  match ← any with
  | .string value _ => return value
  | _ => throw .invalidOperation

/-- An optional argument that is a string. -/
def string? : Args (Option String) := do
  match ← value? with
  | some (.string value _) => return some value
  | some _ => throw .invalidOperation
  | none => return none

/-- Checks that no argument is left. -/
def close : Args Unit := do
  unless (← get).isEmpty do throw .tooManyArguments

/-- All arguments that are left. -/
def rest : Args (List Value) := do
  let values ← get
  set ([] : List Value)
  return values

/-- The named arguments, which come last. -/
def keywords : Args (List (String × Value)) := do
  match (← get).getLast? with
  | some (.keywords entries) =>
    modify (·.dropLast)
    return entries
  | _ => return []

/-- Checks that no other names than the given ones are used. -/
def onlyKeys (entries : List (String × Value)) (keys : List String) : Args Unit := do
  if entries.any fun entry => !keys.contains entry.1 then throw .tooManyArguments

/-- A named truth value, which is false when missing. -/
def keyFlag (entries : List (String × Value)) (key : String) : Args Bool := do
  match entries.lookup key with
  | some (.undefined _) | some .none | none => return false
  | some value => flagOf value

/-- A named string. -/
def keyText? (entries : List (String × Value)) (key : String) : Args (Option String) := do
  match entries.lookup key with
  | some (.string value _) => return some value
  | some (.undefined _) | some .none | none => return none
  | some _ => throw .invalidOperation

/-- Reads a list of arguments to its end. -/
def run {α : Type} (reader : Args α) (arguments : List Value) : Except Fault α :=
  StateT.run' (do let result ← reader; close; return result) arguments

end Args

namespace Filter

/-! ### Texts -/

/-- The text with every word starting in upper case and going on in lower case. -/
def titleChars (starting : Bool) : List Char → List Char
  | [] => []
  | c :: rest =>
    let isPunctuation := c.toNat > 32 && c.toNat < 127 && !isAlphanumeric c
    if isPunctuation || isBlank c then c :: titleChars true rest
    else if starting then upperChars c ++ titleChars false rest
    else lowerChars c ++ titleChars false rest

/-- The text with its first character in upper case and the others in lower case. -/
def capitalizeChars : List Char → List Char
  | [] => []
  | c :: rest => upperChars c ++ lowerText rest

/-- Replaces every occurrence of a text, which must not be empty. -/
def replaceNonempty (old new : List Char) : Nat → List Char → List Char
  | 0, cs => cs
  | fuel + 1, cs =>
    match cs with
    | [] => []
    | c :: rest =>
      match old.isPrefixOf? cs with
      | some rest => new ++ replaceNonempty old new fuel rest
      | none => c :: replaceNonempty old new fuel rest

/-- Replaces every occurrence of a text; the empty text occurs around every character. -/
def replaceChars (old new cs : List Char) : List Char :=
  if old.isEmpty then new ++ cs.flatMap fun c => c :: new
  else replaceNonempty old new (cs.length + 1) cs

/-- Splits at a nonempty separator into at most `most` parts. -/
def splitNonempty (separator : List Char) : Nat → Nat → List Char → List Char → List (List Char)
  | 0, _, part, cs => [part.reverse ++ cs]
  | fuel + 1, most, part, cs =>
    if most ≤ 1 then [part.reverse ++ cs]
    else match cs with
      | [] => [part.reverse]
      | c :: rest =>
        match separator.isPrefixOf? cs with
        | some rest => part.reverse :: splitNonempty separator fuel (most - 1) [] rest
        | none => splitNonempty separator fuel most (c :: part) rest

/-- Splits at every place between characters, the ends included, into at most `most` parts. -/
def splitEverywhere (most : Nat) (cs : List Char) : List (List Char) :=
  let parts := [[]] ++ cs.map ([·]) ++ [[]]
  if parts.length ≤ most then parts
  else parts.take (most - 1) ++ [(parts.drop (most - 1)).flatten]

/-- Splits at a separator into at most `most` parts. -/
def splitText (separator : List Char) (most : Nat) (cs : List Char) : List (List Char) :=
  if most == 0 then []
  else if separator.isEmpty then splitEverywhere most cs
  else splitNonempty separator (cs.length + 1) most [] cs

/-- Splits at every blank into at most `most` parts. -/
def splitBlanks : Nat → List Char → List Char → List (List Char)
  | _, part, [] => [part.reverse]
  | most, part, c :: rest =>
    if most ≤ 1 then [part.reverse ++ c :: rest]
    else if isBlank c then part.reverse :: splitBlanks (most - 1) [] rest
    else splitBlanks most (c :: part) rest

/-- The words between blanks. -/
def words (cs : List Char) : List (List Char) :=
  (splitBlanks (cs.length + 2) [] cs).filter (!·.isEmpty)

/-- The lines of a text, without their ends; a break at the very end starts no line. -/
def lines (cs : List Char) : List (List Char) :=
  let parts := splitAll '\n' cs
  let parts := if parts.getLast? == some [] then parts.dropLast else parts
  parts.zipIdx.map fun (part, i) =>
    if part.getLast? == some '\r' && (i + 1 < parts.length || cs.getLast? == some '\n') then
      part.dropLast
    else part

/-- The text without a line break at its end. -/
def withoutBreak (cs : List Char) : List Char :=
  let cs := if cs.getLast? == some '\n' then cs.dropLast else cs
  if cs.getLast? == some '\r' then cs.dropLast else cs

/-- Indents the lines of a text. -/
def indentText (width : Nat) (first blank : Bool) (cs : List Char) : List Char :=
  let margin := List.replicate width ' '
  let indented (line : List Char) : List Char :=
    if line.isEmpty then (if blank then margin else []) else margin ++ line
  let parts := splitAll '\n' (withoutBreak cs)
  let parts := match first, parts with
    | true, parts => parts.map indented
    | false, part :: rest => part :: rest.map indented
    | false, [] => []
  withoutBreak (parts.flatMap (· ++ ['\n']))

/-! ### Numbers -/

/-- Reads a whole number with an optional sign. -/
def parseWhole? (cs : List Char) : Option Int :=
  let (negative, ds) := match cs with
    | '-' :: rest => (true, rest)
    | '+' :: rest => (false, rest)
    | _ => (false, cs)
  if ds.isEmpty || !ds.all isDigit then none
  else
    let n : Int := ofDigits ds
    let n := if negative then -n else n
    if Value.leastWhole ≤ n && n ≤ Value.greatestWhole then some n else none

/-- Reads a double, which may also be infinite or not a number. -/
def parseReal? (cs : List Char) : Option Float :=
  let (negative, rest) := match cs with
    | '-' :: rest => (true, rest)
    | '+' :: rest => (false, rest)
    | _ => (false, cs)
  let word := String.ofList (rest.map lower)
  let value? :=
    if word == "inf" || word == "infinity" then some (1.0 / 0.0)
    else if word == "nan" then some (0.0 / 0.0)
    else
      let mantissa := rest.dropWhile fun c => isDigit c || c == '.'
      if mantissa.isEmpty || mantissa.head?.any fun c => c == 'e' || c == 'E' then
        Scanner.realValue? rest
      else none
  value?.map fun x => if negative then -x else x

/-- The whole number of a double, within the range of whole numbers. -/
def truncated (x : Float) : Int :=
  match Number.Binary.ofFloat? x with
  | some b => max Value.leastWhole (min Value.greatestWhole b.truncate)
  | none => if x.isNaN then 0 else if x < 0 then Value.leastWhole else Value.greatestWhole

/-- The whole number a value is converted to. -/
def toWhole (value : Value) : Except Fault Value :=
  match value with
  | .undefined _ => .ok (.whole 0)
  | .none => .ok (.whole 0)
  | .bool b => .ok (.whole (if b then 1 else 0))
  | .whole n => .ok (.whole n)
  | .real x => .ok (.whole (truncated x))
  | .string s _ =>
    match parseWhole? s.toList with
    | some n => .ok (.whole n)
    | none =>
      match parseReal? s.toList with
      | some x => .ok (.whole (truncated x))
      | none => .error .invalidOperation
  | _ => .error .invalidOperation

/-- The double a value is converted to. -/
def toReal (value : Value) : Except Fault Value :=
  match value with
  | .undefined _ => .ok (.real 0.0)
  | .none => .ok (.real 0.0)
  | .string s _ =>
    match parseReal? s.toList with
    | some x => .ok (.real x)
    | none => .error .invalidOperation
  | value =>
    match value.toFloat? with
    | some x => .ok (.real x)
    | none => .error .invalidOperation

/-! ### Lists -/

/-- The items a loop would go through. -/
def itemsOf (value : Value) : Except Fault (List Value) :=
  if value.isLoud then .error .undefinedValue
  else match value.items? with
    | some items => .ok items
    | none => .error .invalidOperation

/-- A value as it is compared when case does not matter. -/
def folded (caseSensitive : Bool) (value : Value) : Value :=
  match caseSensitive, value with
  | false, .string s _ => .ofChars (lowerText s.toList)
  | _, value => value

/-- The order of two values, in which the case of ASCII letters may not matter. -/
def orderFolded (caseSensitive : Bool) (a b : Value) : Ordering :=
  match caseSensitive, a, b with
  | false, .string s _, .string t _ => compare (s.map lower) (t.map lower)
  | _, a, b => Value.order a b

/-- The value at a path in an item; the fallback stands for a missing one. -/
def pathOr (fallback : Value) (path : String) (item : Value) : Value :=
  match item.path path with
  | .ok value => if value.isUndefined then fallback else value
  | .error _ => fallback

/-- Sorts by a key; equal keys keep their order. -/
def sortBy (key : Value → Except Fault Value) (caseSensitive : Bool) (items : List Value) :
    List Value :=
  items.mergeSort fun a b =>
    match key a, key b with
    | .ok a, .ok b => orderFolded caseSensitive a b != .gt
    | _, _ => true

/-- A pair as a list. -/
def pair (a b : Value) : Value :=
  .list [a, b]

/-- Cuts a list into groups of the given size; the last one may be filled up. -/
def batches (size : Nat) (fill : Option Value) : Nat → List Value → List Value
  | 0, _ => []
  | fuel + 1, items =>
    if items.isEmpty then []
    else
      let group := items.take size
      let group := match fill with
        | some filler => group ++ List.replicate (size - group.length) filler
        | none => group
      .list group :: batches size fill fuel (items.drop size)

/-- Cuts a list into the given number of groups, the first of which may be longer by one. -/
def slices (count : Nat) (fill : Option Value) (items : List Value) : List Value :=
  let size := items.length / count
  let longer := items.length % count
  (List.range count).map fun i =>
    let start := i * size + min i longer
    let stop := (i + 1) * size + min (i + 1) longer
    let group := (items.take stop).drop start
    match fill with
    | some filler => .list (if i < longer then group else group ++ [filler])
    | none => .list group

/-- The items that differ, by their keys, from all items before them. -/
def distinct (key : Value → Value) : List Value → List Value → List Value
  | _, [] => []
  | seen, item :: rest =>
    let k := key item
    if seen.any (Value.order · k == .eq) then distinct key seen rest
    else item :: distinct key (k :: seen) rest

/-- Adds up numbers. -/
def total (items : List Value) : Except Fault Value :=
  items.foldlM (fun sum item =>
    match item with
    | .undefined _ => .ok sum
    | .whole _ => Value.add sum item
    | .real _ => Value.add sum item
    | _ => .error .invalidOperation) (.whole 0)

/-- Joins the texts of items; nothing is put in front of the first text that is not empty. -/
def joined (separator : String) (items : List Value) : String :=
  items.foldl (fun text item =>
    (if text.isEmpty then text else text ++ separator) ++ item.text) ""

/-- The first of several lists that are read in step ends the rows. -/
def rows : Nat → List (List Value) → List Value
  | 0, _ => []
  | fuel + 1, columns =>
    if columns.any (·.isEmpty) then []
    else .list (columns.filterMap (·.head?)) :: rows fuel (columns.map (·.tail))

/-- Puts neighbours with equal keys together, under the key of the last of them. -/
def grouped (caseSensitive : Bool) : List (Value × Value) → List (Value × List Value)
  | [] => []
  | (key, item) :: rest =>
    match grouped caseSensitive rest with
    | (found, items) :: groups =>
      if orderFolded caseSensitive key found == .eq then (found, item :: items) :: groups
      else (key, [item]) :: (found, items) :: groups
    | [] => [(key, [item])]

/-! ### Tests -/

/-- A test of a string argument's beginning or end. -/
def textTest (test : List Char → List Char → Bool) : Args Bool := do
  let value ← Args.text
  let other ← Args.text
  return test other.toList value.toList

/-- A test that compares with another value. -/
def comparison (accept : Value → Value → Bool) : Args Bool := do
  let value ← Args.any
  let other ← Args.any
  return accept value other

/-- A test of a single value. -/
def inspection (accept : Value → Bool) : Args Bool := do
  return accept (← Args.any)

/-- The filters there are. -/
def names : List String := [
  "safe", "escape", "e", "lower", "upper", "title", "capitalize", "replace", "length", "count",
  "dictsort", "items", "reverse", "trim", "join", "split", "lines", "default", "d", "round",
  "abs", "int", "float", "attr", "first", "last", "min", "max", "sort", "list", "string", "bool",
  "batch", "slice", "sum", "indent", "select", "reject", "selectattr", "rejectattr", "map",
  "groupby", "unique", "chain", "zip", "pprint", "query_escape"]

/-- Whether a filter hands a cell on as it is, so that it can still be assigned to. -/
def keepsCells (name : String) : Bool :=
  name == "default" || name == "d"

/-- The tests there are. -/
def testNames : List String := [
  "undefined", "defined", "none", "safe", "escaped", "boolean", "odd", "even", "divisibleby",
  "number", "integer", "int", "float", "string", "sequence", "iterable", "mapping",
  "startingwith", "endingwith", "lower", "upper", "sameas", "eq", "equalto", "==", "ne", "!=",
  "lt", "lessthan", "<", "le", "<=", "gt", "greaterthan", ">", "ge", ">=", "in", "true", "false",
  "filter", "test"]

/-- The result of a test by its name. -/
def test (name : String) : Args Bool :=
  match name with
  | "undefined" => inspection Value.isUndefined
  | "defined" => inspection (!·.isUndefined)
  | "none" => inspection fun | .none => true | _ => false
  | "safe" | "escaped" => inspection fun | .string _ safe => safe | _ => false
  | "boolean" => inspection fun | .bool _ => true | _ => false
  | "odd" => inspection fun v => v.toWhole?.any (· % 2 != 0)
  | "even" => inspection fun v => v.toWhole?.any (· % 2 == 0)
  | "divisibleby" => comparison fun v w =>
    match Value.common? v w with
    | some (.wholes a b) => b != 0 && a % b == 0
    | some (.reals a b) => Value.floatRemainder a b == 0.0
    | _ => false
  | "number" => inspection fun | .whole _ => true | .real _ => true | _ => false
  | "integer" | "int" => inspection fun | .whole _ => true | _ => false
  | "float" => inspection fun | .real _ => true | _ => false
  | "string" => inspection fun | .string _ _ => true | _ => false
  | "sequence" => inspection fun | .list _ => true | _ => false
  | "iterable" => inspection (·.items?.isSome)
  | "mapping" => inspection fun v => v.rank == 7
  | "startingwith" => textTest List.isPrefixOf
  | "endingwith" => textTest List.isSuffixOf
  | "lower" => inspection fun v => v.string?.any fun s => !s.toList.any isUpperCase
  | "upper" => inspection fun v => v.string?.any fun s => !s.toList.any isLowerCase
  | "sameas" => comparison fun v w => v.rank == w.rank && Value.equals v w
  | "eq" | "equalto" | "==" => comparison Value.equals
  | "ne" | "!=" => comparison (!Value.equals · ·)
  | "lt" | "lessthan" | "<" => comparison (Value.order · · == .lt)
  | "le" | "<=" => comparison (Value.order · · != .gt)
  | "gt" | "greaterthan" | ">" => comparison (Value.order · · == .gt)
  | "ge" | ">=" => comparison (Value.order · · != .lt)
  | "in" => do
    let value ← Args.any
    let container ← Args.any
    Args.close
    if container.isLoud then throw .undefinedValue
    match Value.contained value container with
    | .ok found => return found
    | .error _ => return false
  | "true" => inspection fun | .bool b => b | _ => false
  | "false" => inspection fun | .bool b => !b | _ => false
  | "filter" => do return names.contains (← Args.text)
  | "test" => do return testNames.contains (← Args.text)
  | _ => throw .unknownTest

/-! ### Filters -/

/-- Keeps the items that pass a test, or those that do not. -/
def selected (keep : Bool) (byField : Bool) : Args Value := do
  let value ← Args.any
  let field? ← if byField then some <$> Args.text else pure none
  let testName? ← Args.text?
  let arguments ← Args.rest
  match testName? with
  | some name => unless testNames.contains name do throw .unknownTest
  | none => pure ()
  let items ← itemsOf value
  let kept ← items.filterM fun item => do
    let subject ← match field? with
      | some path => item.path path
      | none => pure item
    let passed ← match testName? with
      | some name => Args.run (test name) (subject :: arguments)
      | none => pure subject.isTrue
    return passed == keep
  return .list kept

/-- A filter by its name; filters of items may nest as deeply as the bound allows. -/
def apply : Nat → String → Args Value
  | fuel, name =>
    match name with
    | "safe" => do return .string (← Args.text) true
    | "escape" | "e" => do return .string (← Args.any).markupText true
    | "lower" => onChars lowerText
    | "upper" => onChars upperText
    | "title" => onChars (titleChars true)
    | "capitalize" => onChars capitalizeChars
    | "query_escape" => do return .ofString (formEncode (← Args.text))
    | "replace" => do
      let value ← Args.text
      let old ← Args.text
      let new ← Args.text
      return .ofChars (replaceChars old.toList new.toList value.toList)
    | "length" | "count" => do
      let value ← Args.any
      Args.close
      match value.length? with
      | some n => return .whole n
      | none => throw .invalidOperation
    | "dictsort" => do
      let keywords ← Args.keywords
      let value ← Args.any
      Args.close
      match value.entries? with
      | none => throw .invalidOperation
      | some entries =>
        let index : Nat ← match ← Args.keyText? keywords "by" with
          | some "value" => pure 1
          | some "key" | none => pure 0
          | some _ => throw .invalidOperation
        let caseSensitive ← Args.keyFlag keywords "case_sensitive"
        let reversed ← Args.keyFlag keywords "reverse"
        Args.onlyKeys keywords ["case_sensitive", "by", "reverse"]
        let pairs := entries.map fun (k, v) => pair k v
        let key (pair : Value) : Except Fault Value :=
          .ok ((pair.item? (.whole index)).getD .none)
        let sorted := sortBy key caseSensitive pairs
        return .list (if reversed then sorted.reverse else sorted)
    | "items" => do
      let value ← Args.any
      Args.close
      match value.entries? with
      | some entries => return .list (entries.map fun (k, v) => pair k v)
      | none => throw .invalidOperation
    | "reverse" => do
      let value ← Args.any
      Args.close
      match value with
      | .undefined silent => return .undefined silent
      | .none => return .none
      | .string s _ => return .ofChars s.toList.reverse
      | value =>
        match value.items? with
        | some items => return .series items.reverse
        | none => throw .invalidOperation
    | "trim" => do
      let value ← Args.text
      match ← Args.text? with
      | none => return .ofChars (trim value.toList)
      | some set => return .ofChars (stripWhile set.toList.contains value.toList)
    | "join" => do
      let value ← Args.any
      let separator := (← Args.text?).getD ""
      Args.close
      match value.items? with
      | some items => return .ofString (joined separator items)
      | none => throw .invalidOperation
    | "split" => do
      let value ← Args.string
      let separator? ← Args.string?
      let most := match ← Args.signed? with
        | some n => if n ≥ 0 then some (n.toNat + 1) else none
        | none => none
      let cs := value.toList
      let parts := match separator?, most with
        | none, none => words cs
        | none, some most => splitBlanks most [] cs
        | some separator, most => splitText separator.toList (most.getD (cs.length + 3)) cs
      return .list (parts.map .ofChars)
    | "lines" => do return .list ((lines (← Args.string).toList).map .ofChars)
    | "default" | "d" => do
      let keywords ← Args.keywords
      let value ← Args.any
      let other := (← Args.value?).getD (.ofString "")
      let lax ← Args.flag
      let lax := lax || (← Args.keyFlag keywords "boolean")
      Args.onlyKeys keywords ["boolean"]
      return if value.isUndefined || (lax && !value.isTrue) then other else value
    | "round" => do
      let value ← Args.any
      let precision := (← Args.short?).getD 0
      Args.close
      match value with
      | .whole n => return .whole n
      | .real x =>
        let scale := Number.raised 10.0 precision
        return .real (Value.floatRound (scale * x) / scale)
      | _ => throw .invalidOperation
    | "abs" => do
      let value ← Args.any
      Args.close
      match value with
      | .whole n =>
        if n == Value.leastWhole then throw .invalidOperation
        return .whole n.natAbs
      | .real x => return .real x.abs
      | _ => throw .invalidOperation
    | "int" => do
      let value ← Args.any
      Args.close
      toWhole value
    | "float" => do
      let value ← Args.any
      Args.close
      toReal value
    | "attr" => do
      let value ← Args.any
      let key ← Args.any
      Args.close
      if value.isUndefined then throw .undefinedValue
      return (value.item? key).getD (.undefined false)
    | "first" => do
      let value ← Args.any
      Args.close
      let items ← match value with
        | .undefined _ | .none => throw .invalidOperation
        | value => iterated value
      return items.head?.getD (.undefined false)
    | "last" => do
      let value ← Args.any
      Args.close
      let items ← match value with
        | .undefined _ | .none => throw .invalidOperation
        | value => if value.entries?.isSome then throw .invalidOperation else iterated value
      return items.getLast?.getD (.undefined false)
    | "min" => do
      let value ← Args.any
      Args.close
      return (extreme .lt (← collected value)).getD (.undefined false)
    | "max" => do
      let value ← Args.any
      Args.close
      return (extreme .gt (← collected value)).getD (.undefined false)
    | "sort" => do
      let keywords ← Args.keywords
      let value ← Args.any
      Args.close
      let items ← collected value
      let caseSensitive ← Args.keyFlag keywords "case_sensitive"
      let key : Value → Except Fault Value := match ← Args.keyText? keywords "attribute" with
        | some path => fun item => item.path path
        | none => .ok
      let reversed ← Args.keyFlag keywords "reverse"
      Args.onlyKeys keywords ["case_sensitive", "attribute", "reverse"]
      let sorted := sortBy key caseSensitive items
      return .list (if reversed then sorted.reverse else sorted)
    | "list" => do
      let value ← Args.any
      Args.close
      return .list (← collected value)
    | "string" => do
      match ← Args.any with
      | .string s safe => return .string s safe
      | value => return .ofString value.text
    | "bool" => do return .bool (← Args.any).isTrue
    | "batch" => do
      let value ← Args.any
      let size ← Args.count
      let fill ← Args.value?
      Args.close
      if size == 0 then throw .invalidOperation
      let items ← itemsOf value
      return .list (batches size fill (items.length + 1) items)
    | "slice" => do
      let value ← Args.any
      let count ← Args.count
      let fill ← Args.value?
      Args.close
      if count == 0 then throw .invalidOperation
      return .list (slices count fill (← itemsOf value))
    | "sum" => do
      let value ← Args.any
      Args.close
      total (← itemsOf value)
    | "indent" => do
      let value ← Args.text
      let width ← Args.count
      let first ← Args.flag
      let blank ← Args.flag
      return .ofChars (indentText width first blank value.toList)
    | "select" => selected true false
    | "reject" => selected false false
    | "selectattr" => selected true true
    | "rejectattr" => selected false true
    | "map" => do
      let keywords ← Args.keywords
      let value ← Args.any
      let arguments ← Args.rest
      match keywords.lookup "attribute" with
      | some key =>
        unless arguments.isEmpty do throw .tooManyArguments
        let fallback := (keywords.lookup "default").getD (.undefined false)
        Args.onlyKeys keywords ["attribute", "default"]
        let found ← (← itemsOf value).mapM fun item =>
          let part := match key with
            | .string path _ => item.path path
            | key => .ok ((item.item? key).getD (.undefined false))
          match part with
          | .ok value => pure (if value.isUndefined then fallback else value)
          | .error fault => if fallback.isUndefined then throw fault else pure fallback
        return .list found
      | none =>
        match arguments with
        | .string filter _ :: arguments =>
          match fuel with
          | 0 => throw .invalidOperation
          | fuel + 1 =>
            unless names.contains filter do throw .unknownFilter
            let trailing := if keywords.isEmpty then [] else [Value.keywords keywords]
            let found ← (← itemsOf value).mapM fun item =>
              Args.run (apply fuel filter) (item :: arguments ++ trailing)
            return .list found
        | _ => throw .invalidOperation
    | "groupby" => do
      let keywords ← Args.keywords
      let value ← Args.any
      let field? ← Args.string?
      Args.close
      let fallback := (keywords.lookup "default").getD (.undefined false)
      let caseSensitive ← Args.keyFlag keywords "case_sensitive"
      let (path, keys) ← match field?, keywords.lookup "attribute" with
        | some path, _ => pure (path, [])
        | none, some (.string path _) => pure (path, ["attribute"])
        | none, some _ => throw .invalidOperation
        | none, none => throw .missingArgument
      let keyed := (← itemsOf value).map fun item => pair (pathOr fallback path item) item
      Args.onlyKeys keywords (keys ++ ["case_sensitive", "default"])
      let sorted := sortBy (fun p => .ok ((p.item? (.whole 0)).getD .none)) caseSensitive keyed
      let entries := sorted.filterMap fun
        | .list [key, item] => some (key, item)
        | _ => none
      return .list ((grouped caseSensitive entries).map fun (key, items) => .group key items)
    | "unique" => do
      let keywords ← Args.keywords
      let value ← Args.any
      Args.close
      let path? ← Args.keyText? keywords "attribute"
      let caseSensitive ← Args.keyFlag keywords "case_sensitive"
      Args.onlyKeys keywords ["case_sensitive", "attribute"]
      let key (item : Value) : Value := folded caseSensitive (match path? with
        | some path => pathOr (.undefined false) path item
        | none => item)
      return .list (distinct key [] (← itemsOf value))
    | "chain" => do
      let first ← Args.any
      let others ← Args.rest
      match first.entries?, others.mapM Value.entries? with
      | some entries, some more => return .ofEntries (entries ++ more.flatten)
      | _, _ =>
        let items ← (first :: others).mapM (iterated ·)
        let isList : Value → Bool
          | .list _ => true
          | _ => false
        return if (first :: others).all isList then .list items.flatten else .series items.flatten
    | "zip" => do
      let first ← Args.any
      let others ← Args.rest
      let columns ← (first :: others).mapM (iterated ·)
      let longest := (columns.map List.length).foldl max 0
      return .series (rows (longest + 1) columns)
    | "pprint" => do return .ofString ((← Args.any).pretty 0)
    | _ => throw .unknownFilter
where
  /-- A filter that works on the characters of a text. -/
  onChars (change : List Char → List Char) : Args Value := do
    return .ofChars (change (← Args.text).toList)
  /-- The items of a value; an undefined one has none. -/
  iterated (value : Value) : Args (List Value) :=
    match value.items? with
    | some items => pure items
    | none => throw .invalidOperation
  /-- The items of a value that must be defined. -/
  collected (value : Value) : Args (List Value) :=
    if value.isLoud then throw .invalidOperation else iterated value
  /-- The item that comes before all others in the given direction. -/
  extreme (direction : Ordering) : List Value → Option Value
    | [] => none
    | item :: rest =>
      some (rest.foldl (fun best item =>
        if direction == .lt then (if Value.order item best == .lt then item else best)
        else (if Value.order item best != .lt then item else best)) item)

end Filter

end CatalogFeeds.Template
