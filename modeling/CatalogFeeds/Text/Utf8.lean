import CatalogFeeds.Text.Percent
/-!
Reading UTF-8.

A list of bytes is read from left to right into characters and ill-formed parts. An ill-formed
part is as long as it could still have become a character; the byte that ends it is read afresh.
`decode?` accepts only well-formed text, and `decodeLossy` puts the replacement character in the
place of each ill-formed part.
-/

namespace CatalogFeeds.Text

/-- A character of which some bytes are still missing: the bits read so far and the range that
each missing byte must lie in. -/
structure Unfinished where
  bits : Nat
  ranges : List (UInt8 × UInt8)

/-- What a byte is when no character has begun. -/
inductive FirstByte where
  | whole (c : Char)
  | leads (rest : Unfinished)
  | illFormed

/-- The range of most bytes after the first. -/
def continuation : UInt8 × UInt8 := (0x80, 0xBF)

/-- Looks at the first byte of a character. -/
def firstByte (b : UInt8) : FirstByte :=
  let n := b.toNat
  if n < 0x80 then .whole (Char.ofNat n)
  else if n < 0xC2 then .illFormed
  else if n < 0xE0 then .leads ⟨n - 0xC0, [continuation]⟩
  else if n < 0xF0 then
    let second := if n == 0xE0 then (0xA0, 0xBF) else if n == 0xED then (0x80, 0x9F)
      else continuation
    .leads ⟨n - 0xE0, [second, continuation]⟩
  else if n < 0xF5 then
    let second := if n == 0xF0 then (0x90, 0xBF) else if n == 0xF4 then (0x80, 0x8F)
      else continuation
    .leads ⟨n - 0xF0, [second, continuation, continuation]⟩
  else .illFormed

/-- Reads bytes into characters, with `none` for each ill-formed part. -/
def charactersAfter : Option Unfinished → List UInt8 → List (Option Char)
  | none, [] => []
  | some _, [] => [none]
  | pending, b :: rest =>
    match pending with
    | some ⟨bits, (low, high) :: ranges⟩ =>
      if low ≤ b && b ≤ high then
        let bits := bits * 64 + b.toNat % 64
        if ranges.isEmpty then some (Char.ofNat bits) :: charactersAfter none rest
        else charactersAfter (some ⟨bits, ranges⟩) rest
      else none :: afresh b (charactersAfter none rest) fun u => charactersAfter (some u) rest
    | _ => afresh b (charactersAfter none rest) fun u => charactersAfter (some u) rest
where
  /-- Reads a byte with which a character may begin. -/
  afresh (b : UInt8) (done : List (Option Char))
      (goOn : Unfinished → List (Option Char)) : List (Option Char) :=
    match firstByte b with
    | .whole c => some c :: done
    | .leads u => goOn u
    | .illFormed => none :: done

/-- The characters of a list of bytes, with `none` for each ill-formed part. -/
def characters (bytes : List UInt8) : List (Option Char) :=
  charactersAfter none bytes

/-- The text of well-formed bytes. -/
def decode? (bytes : List UInt8) : Option (List Char) :=
  (characters bytes).mapM id

/-- The text of bytes, with a replacement character for each ill-formed part. -/
def decodeLossy (bytes : List UInt8) : List Char :=
  (characters bytes).map (·.getD '\uFFFD')

end CatalogFeeds.Text
