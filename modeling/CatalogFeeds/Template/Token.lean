import CatalogFeeds.Template.Error
import CatalogFeeds.Number.Binary
import CatalogFeeds.Text.Ascii
import CatalogFeeds.Text.Blank
/-!
Tokens of templates.

A template is plain text with variables between double braces, statements between a brace and
a percent sign, and comments between a brace and a number sign. A minus sign at the inner edge
of such a mark drops the blanks next to it outside. A fault is a token too: it stands where
reading cannot go on, so that the parser meets the first fault of the text.
-/

namespace CatalogFeeds.Template

open CatalogFeeds.Text

/-- A piece of a template. -/
inductive Token where
  | text (value : String)
  | variableStart
  | variableEnd
  | blockStart
  | blockEnd
  | name (value : String)
  | string (value : String)
  | whole (value : Nat)
  | real (value : Float)
  | symbol (value : String)
  | fault (cause : Fault)

/-- By how much a token changes the number of open brackets. -/
def Token.nesting : Token → Int
  | symbol "(" | symbol "[" | symbol "\x7b" => 1
  | symbol ")" | symbol "]" | symbol "\x7d" => -1
  | _ => 0

namespace Scanner

/-! ### Strings and numbers -/

/-- Blanks within ASCII that may stand between tokens. -/
def isGap (c : Char) : Bool :=
  c == ' ' || c == '\t' || c == '\n' || c == '\r' || c.toNat == 12

/-- The raw text of a string up to its delimiter, and what follows the delimiter. -/
def stringSpan? (delimiter : Char) : List Char → Option (List Char × List Char)
  | [] => none
  | '\\' :: c :: rest =>
    (stringSpan? delimiter rest).map fun (body, rest) => ('\\' :: c :: body, rest)
  | c :: rest =>
    if c == delimiter then some ([], rest)
    else (stringSpan? delimiter rest).map fun (body, rest) => (c :: body, rest)

/-- The value of hexadecimal digits, in front of which a plus sign may stand. -/
def codeUnit? (cs : List Char) : Option Nat :=
  let ds := match cs with
    | '+' :: rest => rest
    | _ => cs
  if ds.isEmpty then none
  else ds.foldlM (fun n c => (hexValue? c).map (16 * n + ·)) 0

/-- The value of a digit below eight. -/
def octal? (c : Char) : Option Nat :=
  if '0' ≤ c && c ≤ '7' then some (c.toNat - 48) else none

/-- What a backslash and a character stand for: an escape that has no meaning stands for
itself. -/
def simpleEscape (c : Char) : List Char :=
  match c with
  | '"' | '\\' | '/' | '\'' => [c]
  | 'b' => [Char.ofNat 8]
  | 'f' => [Char.ofNat 12]
  | 'n' => ['\n']
  | 'r' => ['\r']
  | 't' => ['\t']
  | c => ['\\', c]

/-- An escape of which a part has been read: the first half of a surrogate pair, or the octal
digits of a byte, of which some more may follow. -/
inductive Pending where
  | nothing
  | surrogate (unit : Nat)
  | octal (code : Nat) (room : Nat)

/-- What a pending escape stands for when nothing more belongs to it. -/
def Pending.settled? : Pending → Option (List Char)
  | nothing => some []
  | surrogate _ => none
  | octal code _ => if code < 256 then some [Char.ofNat code] else none

/-- Resolves the escapes of a string, after what is pending. -/
def unescape? (pending : Pending) : List Char → Option (List Char)
  | [] => pending.settled?
  | '\\' :: 'u' :: a :: b :: c :: d :: rest => do
    let unit ← codeUnit? [a, b, c, d]
    match pending with
    | .surrogate first =>
      if first ≤ 0xDBFF && 0xDC00 ≤ unit && unit ≤ 0xDFFF then
        let c := Char.ofNat (0x10000 + (first - 0xD800) * 0x400 + (unit - 0xDC00))
        (unescape? .nothing rest).map (c :: ·)
      else none
    | pending =>
      let before ← pending.settled?
      if 0xD800 ≤ unit && unit ≤ 0xDFFF then (unescape? (.surrogate unit) rest).map (before ++ ·)
      else (unescape? .nothing rest).map (before ++ Char.ofNat unit :: ·)
  | '\\' :: 'x' :: a :: b :: rest => do
    let before ← pending.settled?
    let code ← codeUnit? [a, b]
    (unescape? .nothing rest).map (before ++ Char.ofNat code :: ·)
  | '\\' :: c :: rest => do
    let before ← pending.settled?
    guard (c != 'u' && c != 'x')
    match octal? c with
    | some digit => (unescape? (.octal digit 2) rest).map (before ++ ·)
    | none => (unescape? .nothing rest).map (before ++ simpleEscape c ++ ·)
  | c :: rest =>
    match pending, octal? c with
    | .octal code (room + 1), some digit => unescape? (.octal (8 * code + digit) room) rest
    | pending, _ => do
      let before ← pending.settled?
      (unescape? .nothing rest).map (before ++ c :: ·)

/-- A character that a name may start with. -/
def startsName (c : Char) : Bool :=
  c == '_' || isLetter c

/-- A character that a name may go on with. -/
def continuesName (c : Char) : Bool :=
  c == '_' || isAlphanumeric c

/-- How far a number has been read. -/
inductive NumberState where
  | whole
  | based
  | fraction
  | exponent
  | exponentDigits
  deriving DecidableEq

/-- The characters of a number and the state at its end. A point belongs to a number unless a
name follows it: then it asks for an attribute. -/
def numberSpan (base : Nat) : NumberState → List Char → List Char × NumberState × List Char
  | state, [] => ([], state, [])
  | state, c :: rest =>
    let next : Option NumberState :=
      if c == '.' && state == .whole && !rest.head?.any startsName then some .fraction
      else if (c == 'e' || c == 'E') && (state == .whole || state == .fraction) then some .exponent
      else if (c == '+' || c == '-') && state == .exponent then some .exponentDigits
      else if isDigit c then some (if state == .exponent then .exponentDigits else state)
      else if base == 16 && state == .based && (hexValue? c).isSome then some state
      else if c == '_' then some state
      else none
    match next with
    | none => ([], state, c :: rest)
    | some state =>
      let (span, final, rest) := numberSpan base state rest
      (c :: span, final, rest)

/-- Reads digits of a base. -/
def basedValue? (base : Nat) (cs : List Char) : Option Nat :=
  if cs.isEmpty then none
  else cs.foldlM (fun n c => do
    let d ← hexValue? c
    if d < base then some (base * n + d) else none) 0

/-- Reads a decimal numeral with a point or an exponent. -/
def realValue? (cs : List Char) : Option Float := do
  let (whole, rest) := (cs.takeWhile isDigit, cs.dropWhile isDigit)
  let (fraction, rest) := match rest with
    | '.' :: rest => (rest.takeWhile isDigit, rest.dropWhile isDigit)
    | _ => ([], rest)
  if whole.isEmpty && fraction.isEmpty then none
  else
    let exponent : Int ← match rest with
      | [] => some 0
      | _ :: '-' :: ds =>
        if ds.isEmpty || !ds.all isDigit then none else some (-(ofDigits ds : Int))
      | _ :: '+' :: ds => if ds.isEmpty || !ds.all isDigit then none else some (ofDigits ds : Int)
      | _ :: ds => if ds.isEmpty || !ds.all isDigit then none else some (ofDigits ds : Int)
    return Number.ofDecimal (ofDigits (whole ++ fraction)) (exponent - fraction.length)

/-- The largest whole number that may be written. -/
def largestWhole : Nat := Number.twoTo 128 - 1

/-- Reads a number, of which the first digit is known to be there. -/
def number (cs : List Char) : Token × List Char :=
  let (base, cs) : Nat × List Char := match cs with
    | '0' :: c :: rest =>
      if c == 'b' || c == 'B' then (2, rest)
      else if c == 'o' || c == 'O' then (8, rest)
      else if c == 'x' || c == 'X' then (16, rest)
      else (10, cs)
    | _ => (10, cs)
  let (span, state, rest) := numberSpan base (if base == 10 then .whole else .based) cs
  if span.getLast? == some '_' then (.fault .malformed, rest)
  else
    let span := span.filter (· != '_')
    let token? : Option Token :=
      if state == .whole || state == .based then
        (basedValue? base span).bind fun n => if n ≤ largestWhole then some (.whole n) else none
      else (realValue? span).map .real
    (token?.getD (.fault .malformed), rest)

/-! ### Marks -/

/-- What a brace opens, by the character after it. -/
inductive Mark where
  | variable
  | block
  | comment
  deriving DecidableEq

/-- The mark that a character after a brace makes. -/
def mark? (c : Char) : Option Mark :=
  if c == '\x7b' then some .variable
  else if c == '%' then some .block
  else if c == '#' then some .comment
  else none

/-- The text before the first mark, the mark and what follows it. -/
def untilMark : List Char → List Char × Option (Mark × List Char)
  | [] => ([], none)
  | c :: rest =>
    let found := match rest with
      | d :: after => if c == '\x7b' then (mark? d).map fun mark => (mark, after) else none
      | [] => none
    match found with
    | some found => ([], some found)
    | none =>
      let (text, found) := untilMark rest
      (c :: text, found)

/-- Splits at the first occurrence of two characters, which are dropped. -/
def splitAtPair (a b : Char) : List Char → Option (List Char × List Char)
  | [] => none
  | [_] => none
  | c :: d :: rest =>
    if c == a && d == b then some ([], rest)
    else (splitAtPair a b (d :: rest)).map fun (before, after) => (c :: before, after)

/-- Drops the sign that asks for or against dropping blanks. -/
def dropSign : List Char → List Char
  | '-' :: rest => rest
  | '+' :: rest => rest
  | cs => cs

/-- Reads the rest of a statement that consists of one word: whether it ends with a minus sign,
and what follows. -/
def wordStatement? (word : List Char) (cs : List Char) : Option (Bool × List Char) := do
  let rest ← word.isPrefixOf? (cs.dropWhile isGap)
  let rest := rest.dropWhile isGap
  let trims := rest.head? == some '-'
  match dropSign rest with
  | '%' :: '\x7d' :: rest => some (trims, rest)
  | _ => none

/-- Finds the end of raw text: the text, whether its end is trimmed, whether the blanks after
the closing statement are dropped, and what follows. -/
def rawSpan? : List Char → Option (List Char × Bool × Bool × List Char)
  | [] => none
  | c :: rest =>
    let closing := match c, rest with
      | '\x7b', '%' :: after =>
        (wordStatement? ['e', 'n', 'd', 'r', 'a', 'w'] (dropSign after)).map
          fun (trims, rest) => (after.head? == some '-', trims, rest)
      | _, _ => none
    match closing with
    | some (trimsBefore, trimsAfter, rest) => some ([], trimsBefore, trimsAfter, rest)
    | none => (rawSpan? rest).map fun (text, rest) => (c :: text, rest)

/-! ### The scanner -/

/-- A text token, unless the text is empty. -/
def ofText (cs : List Char) : List Token :=
  if cs.isEmpty then [] else [.text (String.ofList cs)]

/-- The operators of two characters. -/
def pairs : List (Char × Char) :=
  [('/', '/'), ('*', '*'), ('=', '='), ('!', '='), ('>', '='), ('<', '=')]

/-- The operators and brackets of one character. -/
def singles : List Char :=
  ['+', '-', '*', '/', '%', '.', ',', ':', '~', '|', '=', '>', '<', '(', ')', '[', ']',
    '\x7b', '\x7d']

/-- Reads one token inside a mark. -/
def inner (c : Char) (rest : List Char) : Token × List Char :=
  match rest with
  | d :: after =>
    if pairs.contains (c, d) then (.symbol (String.ofList [c, d]), after) else single c rest
  | [] => single c rest
where
  /-- Reads a token that is no operator of two characters. -/
  single (c : Char) (rest : List Char) : Token × List Char :=
    if singles.contains c then (.symbol (String.ofList [c]), rest)
    else if c == '\'' || c == '"' then
      match stringSpan? c rest with
      | none => (.fault .malformed, [])
      | some (body, rest) =>
        if body.contains '\\' then
          match unescape? .nothing body with
          | some body => (.string (String.ofList body), rest)
          | none => (.fault .badEscape, [])
        else (.string (String.ofList body), rest)
    else if isDigit c then number (c :: rest)
    else if startsName c then
      (.name (String.ofList (c :: rest.takeWhile continuesName)), rest.dropWhile continuesName)
    else (.fault .malformed, [])

/-- The end of a mark: whether it drops the blanks after it, and what follows. -/
def markEnd? (isBlock : Bool) (cs : List Char) : Option (Bool × List Char) :=
  let closing := if isBlock then '%' else '\x7d'
  let trims := cs.head? == some '-'
  match dropSign cs with
  | c :: '\x7d' :: rest => if c == closing then some (trims, rest) else none
  | _ => none

mutual

/-- The tokens of a text outside of marks; `trims` drops the blanks at its start. -/
def outside : Nat → Bool → List Char → List Token
  | 0, _, _ => []
  | fuel + 1, trims, cs =>
    let cs := if trims then cs.dropWhile isBlank else cs
    match untilMark cs with
    | (text, none) => ofText text
    | (text, some (mark, rest)) =>
      let text := if rest.head? == some '-' then dropEndWhile isBlank text else text
      ofText text ++ match mark with
        | .comment =>
          match splitAtPair '#' '\x7d' rest with
          | none => [.fault .malformed]
          | some (body, rest) => outside fuel (body.getLast? == some '-') rest
        | .variable => .variableStart :: inside fuel false 0 (dropSign rest)
        | .block =>
          match wordStatement? ['r', 'a', 'w'] (dropSign rest) with
          | none => .blockStart :: inside fuel true 0 (dropSign rest)
          | some (trimsStart, rest) =>
            match rawSpan? rest with
            | none => [.fault .malformed]
            | some (raw, trimsEnd, trims, rest) =>
              let raw := if trimsStart then raw.dropWhile isBlank else raw
              let raw := if trimsEnd then dropEndWhile isBlank raw else raw
              ofText raw ++ outside fuel trims rest

/-- The tokens of a text inside of a mark; `balance` is the number of brackets that are open.
While there are any, the characters that end the mark are brackets and operators. -/
def inside : Nat → Bool → Int → List Char → List Token
  | 0, _, _, _ => []
  | fuel + 1, isBlock, balance, cs =>
    match cs.dropWhile isGap with
    | [] => []
    | c :: rest =>
      match if balance == 0 then markEnd? isBlock (c :: rest) else none with
      | some (trims, rest) =>
        (if isBlock then .blockEnd else .variableEnd) :: outside fuel trims rest
      | none =>
        match inner c rest with
        | (.fault cause, _) => [.fault cause]
        | (token, rest) => token :: inside fuel isBlock (balance + token.nesting) rest

end

/-- A template without the line break at its end. -/
def withoutLastBreak (cs : List Char) : List Char :=
  let dropLast (c : Char) (reversed : List Char) : List Char :=
    if reversed.head? == some c then reversed.tail else reversed
  (dropLast '\r' (dropLast '\n' cs.reverse)).reverse

/-- The tokens of a template.

Every step of the scanner consumes a character, so the length of the text bounds their number. -/
def scan (template : String) : List Token :=
  let cs := withoutLastBreak template.toList
  outside (cs.length + 1) false cs

end Scanner

end CatalogFeeds.Template
