import CatalogFeeds.Text.Case
import CatalogFeeds.Text.Ascii
import CatalogFeeds.Text.Blank
/-!
Domain names outside ASCII.

A domain name is brought into lower case and one width, and each of its labels that leaves ASCII
is written with the ASCII digits of the bootstring algorithm behind `xn--`. A label that is
already in that form has to be the form of some label.
-/

namespace CatalogFeeds.Domain

open CatalogFeeds.Text

/-! ### The bootstring algorithm -/

/-- The digit of a value below thirty-six: letters come first. -/
def digitChar (d : Nat) : Char :=
  if d < 26 then Char.ofNat ('a'.toNat + d) else Char.ofNat ('0'.toNat + d - 26)

/-- The value of a digit. -/
def digitValue? (c : Char) : Option Nat :=
  if isLetter c then some ((lower c).toNat - 'a'.toNat)
  else if isDigit c then some (Text.digitValue c + 26)
  else none

/-- The threshold of the digit at a position. -/
def threshold (k bias : Nat) : Nat :=
  if k ≤ bias then 1 else if bias + 26 ≤ k then 26 else k - bias

/-- Divides a difference until it is small, counting the steps. -/
def shrink (delta k : Nat) : Nat × Nat :=
  if 455 < delta then shrink (delta / 35) (k + 36) else (delta, k)
termination_by delta
decreasing_by exact Nat.div_lt_self (by omega) (by omega)

/-- The bias after a difference. -/
def adapt (delta count : Nat) (first : Bool) : Nat :=
  let delta := if first then delta / 700 else delta / 2
  let (small, k) := shrink (delta + delta / count) 0
  k + 36 * small / (small + 38)

/-- The digits of a difference. -/
def differenceDigits (fuel q k bias : Nat) : List Char :=
  match fuel with
  | 0 => []
  | fuel + 1 =>
    let t := threshold k bias
    if q < t then [digitChar q]
    else digitChar (t + (q - t) % (36 - t)) ::
      differenceDigits fuel ((q - t) / (36 - t)) (k + 36) bias

/-- Where the writing of a label stands: the next code point, the difference gathered so far,
the bias, and the number of characters already written. -/
structure Progress where
  delta : Nat
  bias : Nat
  written : Nat
  digits : List Char

/-- Writes every occurrence of one code point. -/
def writePoint (n basic : Nat) (points : List Nat) (p : Progress) : Progress :=
  points.foldl (fun p c =>
    if c < n then { p with delta := p.delta + 1 }
    else if c == n then
      { delta := 0
        bias := adapt p.delta (p.written + 1) (p.written == basic)
        written := p.written + 1
        digits := p.digits ++ differenceDigits (p.delta + 1) p.delta 36 p.bias }
    else p) p

/-- Writes the code points of a label that are at least `n`, in increasing order. -/
def writePoints (basic : Nat) (points : List Nat) : Nat → Nat → Progress → Progress
  | 0, _, p => p
  | fuel + 1, n, p =>
    match (points.filter (n ≤ ·)).min? with
    | none => p
    | some m =>
      let p := { p with delta := p.delta + (m - n) * (p.written + 1) }
      let p := writePoint m basic points p
      writePoints basic points fuel (m + 1) { p with delta := p.delta + 1 }

/-- The ASCII digits of a label. -/
def bootstring (label : List Char) : List Char :=
  let basic := label.filter (·.toNat < 128)
  let start : Progress := ⟨0, 72, basic.length, []⟩
  let p := writePoints basic.length (label.map Char.toNat) label.length 128 start
  if basic.isEmpty then p.digits else basic ++ '-' :: p.digits

/-- Reads the digits of a difference. -/
def difference? (bias : Nat) : List Char → (k weight sum : Nat) → Option (Nat × List Char)
  | [], _, _, _ => none
  | c :: rest, k, weight, sum => do
    let d ← digitValue? c
    let t := threshold k bias
    let sum := sum + d * weight
    if d < t then some (sum, rest) else difference? bias rest (k + 36) (weight * (36 - t)) sum

/-- Puts the code points back that a list of digits stands for. -/
def readPoints? : Nat → List Char → (n i bias : Nat) → List Char → Option (List Char)
  | _, [], _, _, _, label => some label
  | 0, _ :: _, _, _, _, _ => none
  | fuel + 1, digits, n, i, bias, label => do
    let (delta, rest) ← difference? bias digits 36 1 0
    let count := label.length + 1
    let n := n + (i + delta) / count
    let position := (i + delta) % count
    if n < 0x110000 && !(0xD800 ≤ n && n < 0xE000) then
      readPoints? fuel rest n (position + 1) (adapt delta count (i == 0))
        (label.take position ++ Char.ofNat n :: label.drop position)
    else none

/-- Splits a label at its last hyphen. -/
def splitBasic (digits : List Char) : List Char × List Char :=
  let reversed := digits.reverse
  let tail := reversed.takeWhile (· != '-')
  if tail.length == digits.length then ([], digits)
  else ((reversed.drop (tail.length + 1)).reverse, tail.reverse)

/-- The label that ASCII digits stand for. -/
def readBootstring? (digits : List Char) : Option (List Char) :=
  let (basic, tail) := splitBasic digits
  readPoints? tail.length tail 128 0 72 basic

/-! ### Labels and names -/

/-- The characters that no domain name may hold. -/
def isForbidden (c : Char) : Bool :=
  c.toNat ≤ 0x20 || c.toNat == 0x7F ||
    ['#', '%', '/', ':', '<', '>', '?', '@', '[', '\\', ']', '^', '|'].contains c

/-- The characters outside ASCII that no label may hold: controls, blanks, private ones and those
that stand for no text. -/
def isUnassigned (c : Char) : Bool :=
  let n := c.toNat
  (0x80 ≤ n && n < 0xA0) || (0x80 ≤ n && isBlank c) || (0xE000 ≤ n && n ≤ 0xF8FF) ||
    (0xFFF9 ≤ n && n ≤ 0xFFFF) || (0x202A ≤ n && n ≤ 0x202E) || (0x2066 ≤ n && n ≤ 0x206F) ||
    0xE0000 ≤ n

/-- The characters that are dropped from names. -/
def isDropped (c : Char) : Bool :=
  let n := c.toNat
  n == 0xAD || n == 0x200B || n == 0x2060 || n == 0x2064 || n == 0xFEFF ||
    (0xFE00 ≤ n && n ≤ 0xFE0F)

/-- The character that a full-width form or an ideographic full stop stands for. -/
def narrow (c : Char) : Char :=
  let n := c.toNat
  if 0xFF01 ≤ n && n ≤ 0xFF5E then Char.ofNat (n - 0xFEE0)
  else if n == 0x3002 || n == 0xFF61 then '.'
  else c

/-- A name in lower case and one width. -/
def folded (name : List Char) : List Char :=
  ((name.filter (!isDropped ·)).map narrow).flatMap lowerChars

/-- Whether a text leaves ASCII. -/
def leavesAscii (cs : List Char) : Bool :=
  cs.any (128 ≤ ·.toNat)

/-- The written form of a label that has been folded. -/
def label? (cs : List Char) : Option (List Char) :=
  match cs with
  | 'x' :: 'n' :: '-' :: '-' :: digits =>
    if leavesAscii digits then none
    else do
      let label ← readBootstring? digits
      if leavesAscii label && folded label == label && !label.any isUnassigned &&
          bootstring label == digits then some cs else none
  | _ =>
    if leavesAscii cs then
      if cs.any isUnassigned then none else some (['x', 'n', '-', '-'] ++ bootstring cs)
    else some cs

/-- The written form of a name. -/
def written? (name : List Char) : Option (List Char) := do
  let labels ← (splitAll '.' (folded name)).mapM label?
  let text := labels.intersperse ['.'] |>.flatten
  if text.any isForbidden then none else some text

end CatalogFeeds.Domain
