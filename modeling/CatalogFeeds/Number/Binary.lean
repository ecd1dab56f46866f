import CatalogFeeds.Number.Power
/-!
Finite doubles as exact fractions, and back.

A double that is neither infinite nor NaN is `mantissa * 2 ^ exponent`, up to its sign, with a
natural mantissa below `2 ^ 53`. `ofDecimal` gives the double nearest to a decimal numeral.
-/

namespace CatalogFeeds.Number

/-- A finite double, taken apart into sign, mantissa and binary exponent. -/
structure Binary where
  negative : Bool
  mantissa : Nat
  exponent : Int
  deriving Repr, DecidableEq

/-- The largest mantissa plus one of a normalised double is twice this. -/
def hiddenBit : Nat := twoTo 52

/-- The parts of a double, or `none` for an infinity or NaN. -/
def Binary.ofFloat? (x : Float) : Option Binary :=
  let bits := x.toBits.toNat
  let negative := bits / twoTo 63 == 1
  let biased : Nat := bits / twoTo 52 % twoTo 11
  let fraction : Nat := bits % twoTo 52
  if biased == 2047 then none
  else if biased == 0 then some ⟨negative, fraction, -1074⟩
  else some ⟨negative, hiddenBit + fraction, (biased : Int) - 1075⟩

/-- Whether the double has a fractional part of zero. -/
def Binary.isIntegral (b : Binary) : Bool :=
  match b.exponent with
  | .ofNat _ => true
  | .negSucc k => b.mantissa % twoTo (k + 1) == 0

/-- The integer obtained by dropping the fractional part. -/
def Binary.truncate (b : Binary) : Int :=
  let magnitude : Nat := match b.exponent with
    | .ofNat k => b.mantissa * twoTo k
    | .negSucc k => b.mantissa / twoTo (k + 1)
  if b.negative then -magnitude else magnitude

/-- The integer nearest to the double, halves going away from zero. -/
def Binary.round (b : Binary) : Int :=
  let magnitude : Nat := match b.exponent with
    | .ofNat k => b.mantissa * twoTo k
    | .negSucc k => (2 * b.mantissa + twoTo (k + 1)) / twoTo (k + 2)
  if b.negative then -magnitude else magnitude

/-- The order of a whole number and a finite double, by their exact values. -/
def Binary.compareWhole (n : Int) (b : Binary) : Ordering :=
  let signed : Int := if b.negative then -(b.mantissa : Int) else b.mantissa
  match b.exponent with
  | .ofNat k => compare n (signed * (twoTo k : Int))
  | .negSucc k => compare (n * (twoTo (k + 1) : Int)) signed

/-- The product of `factor` and a power of `base`, by repeated squaring. -/
def powerFrom (factor base : Float) (exponent : Nat) : Float :=
  if exponent = 0 then factor
  else powerFrom (if exponent % 2 == 1 then factor * base else factor) (base * base) (exponent / 2)
termination_by exponent

/-- A whole power of a double, as repeated squaring rounds it. -/
def raised (base : Float) (exponent : Int) : Float :=
  let power := powerFrom 1.0 base exponent.natAbs
  if exponent < 0 then 1.0 / power else power

/-- The double nearest to `mantissa * 10 ^ exponent`, infinite when that is out of range.

Exponents far outside the range of doubles are answered without computing the power. -/
def ofDecimal (mantissa : Nat) (exponent : Int) : Float :=
  let width : Int := (Nat.toDigits 10 mantissa).length
  if mantissa == 0 then 0.0
  else if exponent + width > 400 then 1.0 / 0.0
  else if exponent + width < -400 then 0.0
  else match exponent with
    | .ofNat k => Float.ofScientific mantissa false k
    | .negSucc k => Float.ofScientific mantissa true (k + 1)

end CatalogFeeds.Number
