import CatalogFeeds.Json.Parser
/-!
Strings, keys and layout of TOML.

A string stands between one or three quotation marks or apostrophes. It is first cut out of the
text around it, and then its content is checked and read: escapes are known between quotation
marks only, and line breaks between three marks only.
-/

namespace CatalogFeeds.Toml

open CatalogFeeds.Text

/-! ### Layout -/

/-- A blank inside a line. -/
def isGap (c : Char) : Bool :=
  c == ' ' || c == '\t'

/-- The text without the blanks at its start. -/
def skipGaps (cs : List Char) : List Char :=
  cs.dropWhile isGap

/-- A character that comments and strings may hold. -/
def isPlain (c : Char) : Bool :=
  c == '\t' || (0x20 ≤ c.toNat && c.toNat != 0x7F)

/-- Whether a text begins with a line break. -/
def beginsWithBreak : List Char → Bool
  | '\n' :: _ => true
  | '\r' :: '\n' :: _ => true
  | _ => false

/-- The text without the blanks, line breaks and comments at its start. -/
def skipLayout (inComment : Bool) : List Char → Option (List Char)
  | [] => some []
  | c :: rest =>
    if beginsWithBreak (c :: rest) then skipLayout (inComment && c == '\r') rest
    else if inComment then if isPlain c then skipLayout true rest else none
    else if c == '#' then skipLayout true rest
    else if isGap c then skipLayout false rest
    else some (c :: rest)

/-- The text after the end of a line, where nothing but a comment may stand before the break. -/
def endLine (cs : List Char) : Option (List Char) :=
  let rest := skipGaps cs
  if rest.isEmpty || beginsWithBreak rest || rest.head? == some '#' then skipLayout false rest
  else none

/-! ### Strings -/

/-- The character of a code point, which must not be a surrogate. -/
def scalar? (n : Nat) : Option Char :=
  if n.isValidChar then some (Char.ofNat n) else none

/-- The number that hexadecimal digits denote. -/
def ofHex? (ds : List Char) : Option Nat :=
  ds.foldlM (fun n d => (hexValue? d).map (16 * n + ·)) 0

/-- The character meant by a letter after a backslash. -/
def unescape? (c : Char) : Option Char :=
  match c with
  | 'b' => some (Char.ofNat 8)
  | 't' => some '\t'
  | 'n' => some '\n'
  | 'f' => some (Char.ofNat 12)
  | 'r' => some '\r'
  | 'e' => some (Char.ofNat 27)
  | '"' => some '"'
  | '\\' => some '\\'
  | _ => none

/-- Reads the content of a string with escapes. Between three marks lines may break, and a
backslash at the end of a line takes away the blanks and breaks up to the next character;
`skipping` tells that this is going on. -/
def unescape (lines : Bool) (skipping : Bool) : List Char → Option (List Char)
  | [] => some []
  | c :: rest =>
    if skipping && (isGap c || beginsWithBreak (c :: rest)) then unescape lines true rest
    else if c == '\\' then
      if lines && beginsWithBreak (skipGaps rest) then unescape lines true rest
      else match rest with
        | 'x' :: a :: b :: rest => do
          let c ← scalar? (← ofHex? [a, b])
          return c :: (← unescape lines false rest)
        | 'u' :: a :: b :: c :: d :: rest => do
          let c ← scalar? (← ofHex? [a, b, c, d])
          return c :: (← unescape lines false rest)
        | 'U' :: a :: b :: c :: d :: e :: f :: g :: h :: rest => do
          let c ← scalar? (← ofHex? [a, b, c, d, e, f, g, h])
          return c :: (← unescape lines false rest)
        | c :: rest => do
          let c ← unescape? c
          return c :: (← unescape lines false rest)
        | [] => none
    else if isPlain c || (lines && (c == '\n' || beginsWithBreak (c :: rest))) then
      (unescape lines false rest).map (c :: ·)
    else none

/-- Checks the content of a string without escapes. -/
def literal (lines : Bool) : List Char → Option (List Char)
  | [] => some []
  | c :: rest =>
    if isPlain c || (lines && (c == '\n' || beginsWithBreak (c :: rest))) then
      (literal lines rest).map (c :: ·)
    else none

/-- Cuts at the next mark; with escapes, one behind a backslash does not count. -/
def cutAt (mark : Char) (escapes : Bool) : List Char → Option (List Char × List Char)
  | [] => none
  | c :: rest =>
    if c == mark then some ([], rest)
    else if escapes && c == '\\' then
      match rest with
      | [] => none
      | d :: rest => (cutAt mark escapes rest).map fun (inner, rest) => (c :: d :: inner, rest)
    else (cutAt mark escapes rest).map fun (inner, rest) => (c :: inner, rest)

/-- Cuts at the next three marks. Up to two more marks behind them belong to the text before. -/
def cutAtThree (mark : Char) (escapes : Bool) : List Char → Option (List Char × List Char)
  | a :: b :: c :: rest =>
    if a == mark && b == mark && c == mark then
      let more := (rest.takeWhile (· == mark)).take 2
      some (more, rest.drop more.length)
    else if escapes && a == '\\' then
      (cutAtThree mark escapes (c :: rest)).map fun (inner, rest) => (a :: b :: inner, rest)
    else (cutAtThree mark escapes (b :: c :: rest)).map fun (inner, rest) => (a :: inner, rest)
  | _ => none

/-- The text without one line break at its start. -/
def dropBreak : List Char → List Char
  | '\n' :: rest => rest
  | '\r' :: '\n' :: rest => rest
  | cs => cs

/-- The content that stands between marks. -/
def content (mark : Char) (lines : Bool) (inner : List Char) : Option (List Char) :=
  let inner := if lines then dropBreak inner else inner
  if mark == '"' then unescape lines false inner else literal lines inner

/-- Reads a string of one line, whose opening mark is read already. -/
def readLineString (mark : Char) (cs : List Char) : Option (String × List Char) := do
  let (inner, rest) ← cutAt mark (mark == '"') cs
  return (String.ofList (← content mark false inner), rest)

/-- Reads a string, whose first mark is read already. -/
def readString (mark : Char) (cs : List Char) : Option (String × List Char) :=
  match cs with
  | a :: b :: rest =>
    if a == mark && b == mark then do
      let (inner, rest) ← cutAtThree mark (mark == '"') rest
      return (String.ofList (← content mark true inner), rest)
    else readLineString mark cs
  | _ => readLineString mark cs

/-! ### Keys -/

/-- A character of a key without marks. -/
def isBare (c : Char) : Bool :=
  isAlphanumeric c || c == '_' || c == '-'

/-- Reads one part of a key. -/
def readKeyPart (cs : List Char) : Option (String × List Char) :=
  match cs with
  | '"' :: rest => readLineString '"' rest
  | '\'' :: rest => readLineString '\'' rest
  | _ =>
    let part := cs.takeWhile isBare
    if part.isEmpty then none else some (String.ofList part, cs.dropWhile isBare)

/-- Reads a key, whose parts are set apart by points, within a number of steps. -/
def readKeyWithin : Nat → List Char → Option (List String × List Char)
  | 0, _ => none
  | fuel + 1, cs => do
    let (part, rest) ← readKeyPart (skipGaps cs)
    match skipGaps rest with
    | '.' :: rest =>
      let (parts, rest) ← readKeyWithin fuel rest
      return (part :: parts, rest)
    | rest => return ([part], rest)

/-- Reads a key and the blanks around it. Each step reads at least one character. -/
def readKey (cs : List Char) : Option (List String × List Char) :=
  readKeyWithin (cs.length + 1) cs

end CatalogFeeds.Toml
