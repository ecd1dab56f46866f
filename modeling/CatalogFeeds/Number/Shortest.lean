import CatalogFeeds.Number.Binary
/-!
The shortest decimal that reads back as a given double.

A decimal reads back as a double when it lies in the interval of reals that round to it; the
ends belong to the interval exactly when the mantissa is even. For one, two, … seventeen digits
the two neighbours of the value on that decimal grid are tried, the first grid with a hit wins,
and of two hits the nearer one, with ties going to the even digit.
-/

namespace CatalogFeeds.Number

/-- The positive decimal `digits * 10 ^ exponent`. -/
structure Decimal where
  digits : Nat
  exponent : Int
  deriving Repr, DecidableEq

/-- A positive rational with the half-open knowledge of what rounds to it: the value and the
ends of its rounding interval over one denominator. -/
structure RoundingInterval where
  low : Nat
  value : Nat
  high : Nat
  denominator : Nat
  closed : Bool

/-- The rounding interval of a positive double, in quarters of its last binary place. -/
def Binary.interval (b : Binary) : RoundingInterval :=
  let below := if b.mantissa == hiddenBit && b.exponent != -1074 then 1 else 2
  let closed := b.mantissa % 2 == 0
  match b.exponent with
  | .ofNat k =>
    let unit := twoTo k
    ⟨(4 * b.mantissa - below) * unit, 4 * b.mantissa * unit, (4 * b.mantissa + 2) * unit, 4, closed⟩
  | .negSucc k =>
    ⟨4 * b.mantissa - below, 4 * b.mantissa, 4 * b.mantissa + 2, 4 * twoTo (k + 1), closed⟩

/-- Whether `digits * 10 ^ exponent` lies in the interval. -/
def RoundingInterval.holds (r : RoundingInterval) (d : Decimal) : Bool :=
  let (num, den) := match d.exponent with
    | .ofNat k => (d.digits * tenTo k * r.denominator, 1)
    | .negSucc k => (d.digits * r.denominator, tenTo (k + 1))
  if r.closed then r.low * den ≤ num && num ≤ r.high * den
  else r.low * den < num && num < r.high * den

/-- The value divided by `10 ^ exponent`: quotient, remainder and divisor. -/
def RoundingInterval.divide (r : RoundingInterval) (exponent : Int) : Nat × Nat × Nat :=
  let (num, den) := match exponent with
    | .ofNat k => (r.value, r.denominator * tenTo k)
    | .negSucc k => (r.value * tenTo (k + 1), r.denominator)
  (num / den, num % den, den)

/-- How often a numerator below a tenth of the denominator can be multiplied by ten before it
reaches that tenth, counted up to a bound. -/
def leadingZeros (denominator : Nat) : Nat → Nat → Nat
  | 0, _ => 0
  | bound + 1, num =>
    if num * 10 ≥ denominator then 0 else leadingZeros denominator bound (num * 10) + 1

/-- The exponent `k` with `10 ^ (k - 1) ≤ value < 10 ^ k`. -/
def RoundingInterval.magnitude (r : RoundingInterval) : Int :=
  let whole := r.value / r.denominator
  if whole > 0 then (Nat.toDigits 10 whole).length
  else -(leadingZeros r.denominator 400 r.value : Int)

/-- The better of the two neighbours of the value with `count` digits, if one reads back. -/
def RoundingInterval.candidate? (r : RoundingInterval) (count : Nat) : Option Decimal :=
  let exponent := r.magnitude - count
  let (quotient, remainder, divisor) := r.divide exponent
  let down : Decimal := ⟨quotient, exponent⟩
  let up : Decimal := ⟨quotient + 1, exponent⟩
  let downHolds := quotient > 0 && r.holds down
  match downHolds, r.holds up with
  | true, true =>
    if 2 * remainder < divisor then some down
    else if 2 * remainder > divisor then some up
    else if quotient % 2 == 0 then some down else some up
  | true, false => some down
  | false, true => some up
  | false, false => none

/-- Moves up to `bound` zeros from the end of the digits into the exponent. -/
def stripZeros : Nat → Decimal → Decimal
  | 0, d => d
  | bound + 1, d =>
    if d.digits != 0 && d.digits % 10 == 0 then stripZeros bound ⟨d.digits / 10, d.exponent + 1⟩
    else d

/-- The shortest decimal that reads back as the given positive double. -/
def Binary.shortest (b : Binary) : Decimal :=
  let r := b.interval
  match (List.range 17).findSome? fun i => r.candidate? (i + 1) with
  | some d => stripZeros 20 d
  | none => ⟨0, 0⟩

end CatalogFeeds.Number
