/-!
Powers of two and ten, and the ranges of machine words.
-/

namespace CatalogFeeds.Number

/-- A power of two. -/
abbrev twoTo (exponent : Nat) : Nat := Nat.pow 2 exponent

/-- A power of ten. -/
abbrev tenTo (exponent : Nat) : Nat := Nat.pow 10 exponent

/-- One past the largest number of an unsigned 64-bit word. -/
def wordLimit : Nat := twoTo 64

/-- One past the largest number of a signed 64-bit word. -/
def signedLimit : Nat := twoTo 63

/-- Whether a number fits a signed 64-bit word. -/
def fitsSigned (n : Int) : Bool :=
  -(signedLimit : Int) ≤ n && n < (signedLimit : Int)

/-- Whether a number fits an unsigned 64-bit word. -/
def fitsUnsigned (n : Int) : Bool :=
  0 ≤ n && n < (wordLimit : Int)

end CatalogFeeds.Number
