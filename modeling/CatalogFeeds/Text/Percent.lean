import CatalogFeeds.Text.Ascii
/-!
Percent signs in front of bytes.

A byte is written as a percent sign and two upper-case hexadecimal digits. Forms write a space
as a plus sign and leave ASCII letters, digits and `* - . _` alone; everything else is written
byte by byte in UTF-8. Reading takes digits of either case, and a percent sign without two
digits stands for itself.
-/

namespace CatalogFeeds.Text

/-- The bytes of a character in UTF-8. -/
def utf8Bytes (c : Char) : List UInt8 :=
  String.utf8EncodeChar c

/-- The bytes of a text in UTF-8. -/
def utf8 (cs : List Char) : List UInt8 :=
  cs.flatMap utf8Bytes

/-- The upper-case hexadecimal digit of a value below sixteen. -/
def upperHexDigit (n : Nat) : Char :=
  if n < 10 then Char.ofNat ('0'.toNat + n) else Char.ofNat ('A'.toNat + n - 10)

/-- A byte as a percent sign and two hexadecimal digits. -/
def percentByte (b : UInt8) : List Char :=
  ['%', upperHexDigit (b.toNat / 16), upperHexDigit (b.toNat % 16)]

/-- A character as percent signs and the hexadecimal digits of its bytes. -/
def percentChar (c : Char) : List Char :=
  (utf8Bytes c).flatMap percentByte

/-- Writes the characters that must not stand for themselves by their bytes. -/
def percentEncode (mustEncode : Char → Bool) (cs : List Char) : List Char :=
  cs.flatMap fun c => if mustEncode c then percentChar c else [c]

/-- The bytes of a text in which percent signs stand in front of bytes. -/
def percentDecode : List Char → List UInt8
  | [] => []
  | '%' :: a :: b :: rest =>
    match hexValue? a, hexValue? b with
    | some high, some low => UInt8.ofNat (16 * high + low) :: percentDecode rest
    | _, _ => utf8Bytes '%' ++ percentDecode (a :: b :: rest)
  | c :: rest => utf8Bytes c ++ percentDecode rest

/-- The characters that stand for themselves in forms. -/
def isFormSafe (c : Char) : Bool :=
  isAlphanumeric c || c == '*' || c == '-' || c == '.' || c == '_'

/-- The written form of a character in forms. -/
def formChar (c : Char) : List Char :=
  if c == ' ' then ['+'] else if isFormSafe c then [c] else percentChar c

/-- The written form of a text in forms. -/
def formChars (cs : List Char) : List Char :=
  cs.flatMap formChar

/-- The written form of a string in forms. -/
def formEncode (s : String) : String :=
  String.ofList (formChars s.toList)

end CatalogFeeds.Text
