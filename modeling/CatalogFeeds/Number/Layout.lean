import CatalogFeeds.Number.Shortest
import CatalogFeeds.Text.Ascii
/-!
How a double is written.

All written forms use the shortest digits that read back. `positional` never uses an exponent;
`scientificOutside` and `compact` write positionally while the decimal point falls within given
bounds and with an exponent elsewhere. Integral values without exponent keep a `.0`.
-/

namespace CatalogFeeds.Number

open CatalogFeeds.Text

/-- Digits of a decimal together with the position of the decimal point among them. -/
def Decimal.point (d : Decimal) : List Char × Int :=
  let ds := Text.digits d.digits
  (ds, d.exponent + ds.length)

/-- The decimal written without an exponent, with at least one digit on each side of the point. -/
def Decimal.positional (d : Decimal) : List Char :=
  let (ds, point) := d.point
  match point with
  | .ofNat 0 => ['0', '.'] ++ ds
  | .ofNat k =>
    if ds.length ≤ k then ds ++ List.replicate (k - ds.length) '0' ++ ['.', '0']
    else ds.take k ++ ['.'] ++ ds.drop k
  | .negSucc k => ['0', '.'] ++ List.replicate (k + 1) '0' ++ ds

/-- The decimal written with one digit before the point and an exponent, in front of which
`plus` stands when it is not negative. -/
def Decimal.scientific (d : Decimal) (plus : List Char) : List Char :=
  let (ds, point) := d.point
  let exponent := point - 1
  let exponentText := (if exponent < 0 then ['-'] else plus) ++ Text.digits exponent.natAbs
  match ds with
  | [] => []
  | [digit] => [digit, 'e'] ++ exponentText
  | digit :: rest => [digit, '.'] ++ rest ++ ['e'] ++ exponentText

/-- The text of a double without an exponent. -/
def positional (x : Float) : String :=
  match Binary.ofFloat? x with
  | none => if x.isNaN then "NaN" else if x < 0 then "-inf" else "inf"
  | some b =>
    let sign := if b.negative then ['-'] else []
    let body := if b.mantissa == 0 then ['0', '.', '0'] else b.shortest.positional
    String.ofList (sign ++ body)

/-- The text of a double in data: positional while the point stands at most four zeros before
or sixteen digits after the first digit, with an exponent elsewhere; `null` when not finite. -/
def scientificOutside (x : Float) : String :=
  match Binary.ofFloat? x with
  | none => "null"
  | some b =>
    let sign := if b.negative then ['-'] else []
    let body :=
      if b.mantissa == 0 then ['0', '.', '0']
      else
        let d := b.shortest
        if -5 < d.point.2 && d.point.2 ≤ 16 then d.positional else d.scientific ['+']
    String.ofList (sign ++ body)

/-- The text of a double that is part of another value: positional from a ten thousandth on and
below ten to the sixteenth, with an exponent elsewhere. -/
def compact (x : Float) : String :=
  match Binary.ofFloat? x with
  | none => positional x
  | some b =>
    let d := b.shortest
    if b.mantissa == 0 || (-3 ≤ d.point.2 && d.point.2 ≤ 16) then positional x
    else String.ofList ((if b.negative then ['-'] else []) ++ d.scientific [])

end CatalogFeeds.Number
