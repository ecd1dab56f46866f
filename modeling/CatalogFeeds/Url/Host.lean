import CatalogFeeds.Url.Basic
import CatalogFeeds.Url.Domain
import CatalogFeeds.Text.Utf8
/-!
Hosts.

A host is an IPv6 address in brackets, an IPv4 address or a domain name. A name whose last part
looks like a number has to be an IPv4 address, the parts of which may also be octal or
hexadecimal; the last part fills all bytes that are left. Schemes that are not special take any
text without delimiters for a host.
-/

namespace CatalogFeeds.Host

open CatalogFeeds.Text

/-! ### IPv4 addresses -/

/-- The number that digits denote in a base. -/
def ofBase (base : Nat) (ds : List Char) : Nat :=
  ds.foldl (fun n d => base * n + (hexValue? d).getD 0) 0

/-- The base of a numeral and its digits. -/
def numeral (cs : List Char) : Nat × List Char :=
  match cs with
  | '0' :: 'x' :: ds => (16, ds)
  | '0' :: 'X' :: ds => (16, ds)
  | '0' :: d :: ds => (8, d :: ds)
  | _ => (10, cs)

/-- Reads a part of an IPv4 address; what follows the mark of a base may be empty. -/
def ipv4Part? (cs : List Char) : Option Nat :=
  let (base, ds) := numeral cs
  if cs.isEmpty then none
  else if ds.all fun d => (hexValue? d).any (· < base) then some (ofBase base ds)
  else none

/-- Whether the last part of a name, or the one before a final dot, looks like a number. -/
def endsInNumber (name : List Char) : Bool :=
  let parts := (splitAll '.' name).reverse
  let last := match parts with
    | [] :: part :: _ => part
    | part :: _ => part
    | [] => []
  (!last.isEmpty && last.all isDigit) || (ipv4Part? last).isSome

/-- What a byte is worth that so many others follow. -/
def byteWeight (others : Nat) : Nat :=
  Nat.pow 256 others

/-- The address with the given parts: all but the last are bytes, the last one fills up. -/
def ipv4OfParts? (parts : List Nat) : Option Nat :=
  match parts.reverse with
  | [] => none
  | last :: firsts =>
    let bytes := firsts.reverse
    if 4 < parts.length || bytes.any (255 < ·) || byteWeight (4 - bytes.length) ≤ last then none
    else some ((bytes.zipIdx.foldl (fun n (b, i) => n + b * byteWeight (3 - i)) 0) + last)

/-- Reads an IPv4 address. -/
def ipv4? (name : List Char) : Option Nat := do
  let parts := splitAll '.' name
  let parts := if parts.getLast? == some [] then parts.dropLast else parts
  ipv4OfParts? (← parts.mapM ipv4Part?)

/-- The four bytes of an IPv4 address in decimal, separated by dots. -/
def ipv4Text (address : Nat) : String :=
  ".".intercalate ([3, 2, 1, 0].map fun i => toString (address / byteWeight i % 256))

/-! ### IPv6 addresses -/

/-- Reads a piece of an IPv6 address. -/
def ipv6Piece? (cs : List Char) : Option Nat :=
  if !cs.isEmpty && cs.length ≤ 4 && cs.all (hexValue? · |>.isSome) then some (ofBase 16 cs)
  else none

/-- Reads a decimal byte without leading zeros. -/
def plainByte? (cs : List Char) : Option Nat :=
  let n := ofDigits cs
  if !cs.isEmpty && cs.length ≤ 3 && cs.all isDigit && n ≤ 255 && digits n == cs then some n
  else none

/-- Reads the last piece of an address, which may be a dotted IPv4 address and is then two. -/
def lastPieces? (cs : List Char) : Option (List Nat) :=
  match splitAll '.' cs with
  | [_] => (ipv6Piece? cs).map ([·])
  | parts => do
    let [a, b, c, d] ← parts.mapM plainByte? | none
    some [256 * a + b, 256 * c + d]

/-- Reads pieces separated by colons; the last of them may be dotted if that is allowed. -/
def pieces? (dotted : Bool) : List (List Char) → Option (List Nat)
  | [] => some []
  | [part] => if dotted then lastPieces? part else (ipv6Piece? part).map ([·])
  | part :: parts => do some ((← ipv6Piece? part) :: (← pieces? dotted parts))

/-- The parts of one side of an address, of which an empty side has none. -/
def sideParts (side : List Char) : List (List Char) :=
  if side.isEmpty then [] else splitAll ':' side

/-- Splits at the first pair of colons. -/
def splitPair : List Char → Option (List Char × List Char)
  | [] => none
  | ':' :: ':' :: rest => some ([], rest)
  | c :: rest => (splitPair rest).map fun (before, after) => (c :: before, after)

/-- Reads an IPv6 address into its eight pieces. -/
def ipv6? (cs : List Char) : Option (List Nat) :=
  match splitPair cs with
  | none => do
    let pieces ← pieces? true (splitAll ':' cs)
    if pieces.length == 8 then some pieces else none
  | some (before, after) => do
    let left ← pieces? false (sideParts before)
    let right ← pieces? true (sideParts after)
    let missing := 8 - (left.length + right.length)
    if 0 < missing then some (left ++ List.replicate missing 0 ++ right) else none

/-- The lower-case hexadecimal digits of a number. -/
def hexDigits (n : Nat) : String :=
  String.ofList (Nat.toDigits 16 n)

/-- The length of the run of zeros at each place. -/
def zeroRuns : List Nat → List Nat
  | [] => []
  | n :: rest =>
    let runs := zeroRuns rest
    (if n == 0 then runs.headD 0 + 1 else 0) :: runs

/-- The pieces of an address separated by colons, the first longest run of zeros left out if it
has at least two. -/
def ipv6Text (pieces : List Nat) : String :=
  let runs := zeroRuns pieces
  let longest := runs.foldl max 0
  let colons (ns : List Nat) := ":".intercalate (ns.map hexDigits)
  if longest < 2 then colons pieces
  else
    let start := runs.idxOf longest
    colons (pieces.take start) ++ "::" ++ colons (pieces.drop (start + longest))

/-! ### Hosts -/

/-- Reads what stands in the place of a host if that is an address in brackets. -/
def bracketed? (cs : List Char) : Option (Except UrlError String) :=
  match cs with
  | '[' :: rest =>
    some (match rest.reverse with
      | ']' :: inner => ((ipv6? inner.reverse).map fun pieces => "[" ++ ipv6Text pieces ++ "]").elim
        (.error .invalidIpv6) .ok
      | _ => .error .invalidIpv6)
  | _ => none

/-- Reads the host of a special scheme. -/
def parse (cs : List Char) : Except UrlError String :=
  match bracketed? cs with
  | some result => result
  | none =>
    match (decode? (percentDecode cs)).bind Domain.written? with
    | none => .error .invalidDomain
    | some name =>
      if name.isEmpty then .error .emptyHost
      else if endsInNumber name then
        (ipv4? name).elim (.error .invalidIpv4) fun address => .ok (ipv4Text address)
      else .ok (String.ofList name)

/-- The characters that no host of any scheme may hold. -/
def isDelimiter (c : Char) : Bool :=
  ['\x00', '\t', '\n', '\r', ' ', '#', '/', ':', '<', '>', '?', '@', '[', '\\', ']', '^',
    '|'].contains c

/-- Reads the host of a scheme that is not special. -/
def parseAny (cs : List Char) : Except UrlError String :=
  match bracketed? cs with
  | some result => result
  | none =>
    if cs.any isDelimiter then .error .invalidHostCharacter
    else .ok (String.ofList (percentEncode Url.encodedAnywhere cs))

end CatalogFeeds.Host
