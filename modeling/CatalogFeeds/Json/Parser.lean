import CatalogFeeds.Json.Basic
/-!
Reading JSON.

`Json.parse?` accepts exactly one value, with blanks around it, and nothing else. Arrays and
objects may be nested at most 127 deep. A number without fraction and exponent that fits a
64-bit word is whole; any other number is the nearest double and must be finite. Of two members
with the same key the later one counts.
-/

namespace CatalogFeeds.Json

open CatalogFeeds.Text

/-- The blanks that may stand between the parts of a JSON text. -/
def isSpace (c : Char) : Bool :=
  c == ' ' || c == '\n' || c == '\t' || c == '\r'

/-- The rest of the text after its leading blanks. -/
def skipSpace (cs : List Char) : List Char :=
  cs.dropWhile isSpace

/-! ### Strings -/

/-- The value of four hexadecimal digits. -/
def hexQuad? (a b c d : Char) : Option Nat := do
  let a ← hexValue? a
  let b ← hexValue? b
  let c ← hexValue? c
  let d ← hexValue? d
  return ((a * 16 + b) * 16 + c) * 16 + d

/-- The character meant by a letter after a backslash. -/
def unescape? (c : Char) : Option Char :=
  match c with
  | '"' => some '"'
  | '\\' => some '\\'
  | '/' => some '/'
  | 'b' => some (Char.ofNat 8)
  | 'f' => some (Char.ofNat 12)
  | 'n' => some '\n'
  | 'r' => some '\r'
  | 't' => some '\t'
  | _ => none

/-- A code unit that starts a surrogate pair. -/
def isHighSurrogate (n : Nat) : Bool :=
  0xD800 ≤ n && n ≤ 0xDBFF

/-- A code unit that ends a surrogate pair. -/
def isLowSurrogate (n : Nat) : Bool :=
  0xDC00 ≤ n && n ≤ 0xDFFF

/-- Reads a string up to its closing quotation mark, the opening one being read already.

Control characters must be escaped, and surrogates must come in pairs. -/
def readString : List Char → Option (List Char × List Char)
  | [] => none
  | '"' :: rest => some ([], rest)
  | '\\' :: 'u' :: a :: b :: c :: d :: rest => do
    let unit ← hexQuad? a b c d
    if isLowSurrogate unit then none
    else if isHighSurrogate unit then
      match rest with
      | '\\' :: 'u' :: e :: f :: g :: h :: rest => do
        let second ← hexQuad? e f g h
        if isLowSurrogate second then
          let (body, rest) ← readString rest
          return (Char.ofNat (0x10000 + (unit - 0xD800) * 0x400 + (second - 0xDC00)) :: body, rest)
        else none
      | _ => none
    else
      let (body, rest) ← readString rest
      return (Char.ofNat unit :: body, rest)
  | '\\' :: c :: rest => do
    let c ← unescape? c
    let (body, rest) ← readString rest
    return (c :: body, rest)
  | c :: rest =>
    if c == '\\' || c.toNat < 32 then none
    else do
      let (body, rest) ← readString rest
      return (c :: body, rest)

/-! ### Numbers -/

/-- The digits at the start of a text, and what follows them. -/
def takeDigits (cs : List Char) : List Char × List Char :=
  (cs.takeWhile isDigit, cs.dropWhile isDigit)

/-- Reads an exponent if there is one; a missing one is zero. -/
def readExponent (cs : List Char) : Option (Option Int × List Char) :=
  match cs with
  | c :: rest =>
    if c == 'e' || c == 'E' then
      let (negative, rest) := match rest with
        | '-' :: rest => (true, rest)
        | '+' :: rest => (false, rest)
        | _ => (false, rest)
      let (ds, rest) := takeDigits rest
      if ds.isEmpty then none
      else
        let value : Int := ofDigits ds
        some (some (if negative then -value else value), rest)
    else some (none, cs)
  | [] => some (none, cs)

/-- The double of a numeral, unless it is too large. -/
def real? (negative : Bool) (mantissa : Nat) (exponent : Int) : Option JsonNumber :=
  let value := Number.ofDecimal mantissa exponent
  if value.isInf then none
  else some (.real (if negative then -value else value))

/-- The number of a numeral without fraction and exponent. -/
def whole? (negative : Bool) (magnitude : Nat) : Option JsonNumber :=
  if negative then
    if 0 < magnitude && magnitude ≤ Number.signedLimit then some (.whole (-magnitude))
    else real? true magnitude 0
  else if magnitude ≤ JsonNumber.largestWhole then some (.whole magnitude)
  else real? false magnitude 0

/-- Reads a number, its sign being read already. -/
def readUnsigned (negative : Bool) (cs : List Char) : Option (JsonNumber × List Char) := do
  let (whole, rest) := takeDigits cs
  if whole.isEmpty || (whole.length > 1 && whole.head? == some '0') then none
  else
    let (fraction, rest) ← match rest with
      | '.' :: rest =>
        let (ds, rest) := takeDigits rest
        if ds.isEmpty then none else some (some ds, rest)
      | _ => some (none, rest)
    let (exponent, rest) ← readExponent rest
    let number ← match fraction, exponent with
      | none, none => whole? negative (ofDigits whole)
      | _, _ =>
        let ds := fraction.getD []
        real? negative (ofDigits (whole ++ ds)) (exponent.getD 0 - ds.length)
    return (number, rest)

/-- Reads a number. -/
def readNumber : List Char → Option (JsonNumber × List Char)
  | '-' :: rest => readUnsigned true rest
  | cs => readUnsigned false cs

/-! ### Values -/

/-- The deepest nesting of arrays and objects that is read. -/
def deepest : Nat := 127

mutual

/-- Reads one value with the given bound on the steps and on the nesting. -/
def readValue : Nat → Nat → List Char → Option (Json × List Char)
  | 0, _, _ => none
  | fuel + 1, depth, cs =>
    match skipSpace cs with
    | 'n' :: 'u' :: 'l' :: 'l' :: rest => some (null, rest)
    | 't' :: 'r' :: 'u' :: 'e' :: rest => some (bool true, rest)
    | 'f' :: 'a' :: 'l' :: 's' :: 'e' :: rest => some (bool false, rest)
    | '"' :: rest => do
      let (body, rest) ← readString rest
      return (string (String.ofList body), rest)
    | '[' :: rest =>
      match depth with
      | 0 => none
      | depth + 1 =>
        match skipSpace rest with
        | ']' :: rest => some (array [], rest)
        | rest => do
          let (items, rest) ← readItems fuel depth rest
          return (array items, rest)
    | '\x7b' :: rest =>
      match depth with
      | 0 => none
      | depth + 1 =>
        match skipSpace rest with
        | '\x7d' :: rest => some (object [], rest)
        | rest => do
          let (members, rest) ← readMembers fuel depth rest
          return (ofEntries members, rest)
    | rest => do
      let (value, rest) ← readNumber rest
      return (number value, rest)

/-- Reads the items of an array and its closing bracket. -/
def readItems : Nat → Nat → List Char → Option (List Json × List Char)
  | 0, _, _ => none
  | fuel + 1, depth, cs => do
    let (item, rest) ← readValue fuel depth cs
    match skipSpace rest with
    | ']' :: rest => return ([item], rest)
    | ',' :: rest =>
      let (items, rest) ← readItems fuel depth rest
      return (item :: items, rest)
    | _ => none

/-- Reads the members of an object and its closing brace. -/
def readMembers : Nat → Nat → List Char → Option (List (String × Json) × List Char)
  | 0, _, _ => none
  | fuel + 1, depth, cs =>
    match skipSpace cs with
    | '"' :: rest => do
      let (key, rest) ← readString rest
      match skipSpace rest with
      | ':' :: rest =>
        let (value, rest) ← readValue fuel depth rest
        match skipSpace rest with
        | '\x7d' :: rest => return ([(String.ofList key, value)], rest)
        | ',' :: rest =>
          let (members, rest) ← readMembers fuel depth rest
          return ((String.ofList key, value) :: members, rest)
        | _ => none
      | _ => none
    | _ => none

end

/-- Reads a text that is one value.

Of any two steps of the reader one consumes a character, which bounds their number. -/
def parseChars? (cs : List Char) : Option Json := do
  let (value, rest) ← readValue (2 * cs.length + 2) deepest cs
  if (skipSpace rest).isEmpty then some value else none

/-- Reads a text that is one value. -/
def parse? (text : String) : Option Json :=
  parseChars? text.toList

/-- Reads UTF-8 bytes that are one value. -/
def parseBytes? (bytes : ByteArray) : Option Json := do
  let text ← String.fromUTF8? bytes
  parse? text

end CatalogFeeds.Json
