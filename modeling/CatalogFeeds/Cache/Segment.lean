import CatalogFeeds.Text.Ascii
/-!
Safe names for files.

A key segment becomes a name of ASCII letters, digits and single dashes. Separators turn into
dashes, common accented letters into plain ones, and everything else is dropped; a segment of
which nothing is left becomes a lone dash. The last segment of a key keeps its extension.
-/

namespace CatalogFeeds.Segment

open CatalogFeeds.Text

/-- Accented letters and the plain letters they are written with. -/
def plainForms : List (List Char × List Char) := [
  (['À', 'Á', 'Â', 'Ã', 'Ä', 'Å'], ['A']),
  (['à', 'á', 'â', 'ã', 'ä', 'å'], ['a']),
  (['Æ'], ['A', 'E']),
  (['æ'], ['a', 'e']),
  (['Ç'], ['C']),
  (['ç'], ['c']),
  (['È', 'É', 'Ê', 'Ë'], ['E']),
  (['è', 'é', 'ê', 'ë'], ['e']),
  (['Ì', 'Í', 'Î', 'Ï'], ['I']),
  (['ì', 'í', 'î', 'ï'], ['i']),
  (['Ñ'], ['N']),
  (['ñ'], ['n']),
  (['Ò', 'Ó', 'Ô', 'Õ', 'Ö', 'Ø'], ['O']),
  (['ò', 'ó', 'ô', 'õ', 'ö', 'ø'], ['o']),
  (['Œ'], ['O', 'E']),
  (['œ'], ['o', 'e']),
  (['Ù', 'Ú', 'Û', 'Ü'], ['U']),
  (['ù', 'ú', 'û', 'ü'], ['u']),
  (['Ý'], ['Y']),
  (['ý', 'ÿ'], ['y']),
  (['ß'], ['s', 's']),
  (['Þ'], ['T', 'h']),
  (['þ'], ['t', 'h']),
  (['Ð'], ['D']),
  (['ð'], ['d'])]

/-- The plain letters a character is written with. -/
def plain (c : Char) : List Char :=
  match plainForms.find? (·.1.contains c) with
  | some (_, letters) => letters
  | none => [c]

/-- The characters that turn into dashes. -/
def isSeparator (c : Char) : Bool :=
  [' ', '&', '_', '=', '+', ':', '.', '/', '-'].contains c

/-- The character that stands for one, if any does. -/
def safe? (c : Char) : Option Char :=
  if isSeparator c then some '-' else if isAlphanumeric c then some c else none

/-- Leaves one of each run of dashes; `dashed` tells that the text so far ends with one. -/
def squeeze (dashed : Bool) : List Char → List Char
  | [] => []
  | c :: rest =>
    if c == '-' then (if dashed then squeeze true rest else '-' :: squeeze true rest)
    else c :: squeeze false rest

/-- The letters, digits and single dashes of a text, from which spaces are trimmed first. -/
def safeStem (cs : List Char) : List Char :=
  let trimmed := ((cs.dropWhile (· == ' ')).reverse.dropWhile (· == ' ')).reverse
  squeeze false ((trimmed.flatMap plain).filterMap safe?)

/-- Splits a text before the last dot that no slash follows. -/
def cutExtension (cs : List Char) : List Char × List Char :=
  let tail := (cs.reverse.takeWhile fun c => c != '.' && c != '/').reverse
  let front := cs.take (cs.length - tail.length)
  if front.getLast? == some '.' then (front.dropLast, '.' :: tail) else (cs, [])

/-- The safe name of a segment, with or without its extension. -/
def sanitizeChars (cs : List Char) (keepExtension : Bool) : List Char :=
  let (stem, extension) := cutExtension cs
  let name := safeStem stem
  let name := if name.isEmpty then ['-'] else name
  let extension := safeStem (extension.dropWhile (· == '.'))
  if keepExtension && !extension.isEmpty then name ++ '.' :: extension else name

/-- The safe name of a segment, with or without its extension. -/
def safeName (segment : String) (keepExtension : Bool) : String :=
  String.ofList (sanitizeChars segment.toList keepExtension)

/-- The safe names of the segments of a key, of which the last keeps its extension. -/
def safeNames : List String → List String
  | [] => []
  | [last] => [safeName last true]
  | segment :: rest => safeName segment false :: safeNames rest

end CatalogFeeds.Segment
