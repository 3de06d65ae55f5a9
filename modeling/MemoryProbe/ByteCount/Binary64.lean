namespace MemoryProbe

/-- The quotient of two numbers, to the nearest whole number; a quotient half
way between two goes to the even one. -/
def roundQuotient (numerator denominator : Nat) : Nat :=
  let quotient := numerator / denominator
  let twice := 2 * (numerator % denominator)
  if twice < denominator then quotient
  else if denominator < twice then quotient + 1
  else quotient + quotient % 2

/-- Nonnegative binary64 numbers, held exactly as `mantissa / (1 <<< scale)`. Sizes
stay far from both ends of the exponent range, so 53 significant bits are the
only limit: halving is exact, and a product is rounded back to 53 bits. -/
structure Binary64 where
  mantissa : Nat
  scale : Nat
  deriving DecidableEq, Repr

namespace Binary64

def denominator (number : Binary64) : Nat :=
  1 <<< number.scale

def significant (amount : Nat) : Nat :=
  let step := 1 <<< (amount.log2 - 52)
  roundQuotient amount step * step

def ofNat (amount : Nat) : Binary64 :=
  ⟨significant amount, 0⟩

def halve (times : Nat) (number : Binary64) : Binary64 :=
  ⟨number.mantissa, number.scale + times⟩

def tenfold (number : Binary64) : Binary64 :=
  ⟨significant (10 * number.mantissa), number.scale⟩

/-- The nearest whole number, halves away from zero. -/
def round (number : Binary64) : Nat :=
  (2 * number.mantissa + number.denominator) / (2 * number.denominator)

/-- The nearest whole number of tenths, taken of the exact value, ties to even. -/
def tenths (number : Binary64) : Nat :=
  roundQuotient (10 * number.mantissa) number.denominator

end Binary64

end MemoryProbe
