namespace ApiTree.Number

/-!
# Double-precision numbers as integers

A finite binary64 number is a sign, a significand below `2 ^ 53` and a power of
two.  Every operation computes the exact rational result first and rounds it
once, to the nearest number and to the even significand on a tie, so no
floating-point hardware is involved.
-/

/--
The finite number `significand * 2 ^ exponent` with its sign.  Normal numbers
have a significand of at least `2 ^ 52`; smaller ones have the least exponent.
-/
structure Binary64 where
  negative : Bool
  significand : Nat
  exponent : Int
  deriving Repr, DecidableEq, Inhabited

namespace Binary64

/-- The exponent of the subnormal numbers. -/
def leastExponent : Int := -1074

/-- The exponent of the largest numbers. -/
def greatestExponent : Int := 971

/-- The significands lie below this number. -/
def significandLimit : Nat := Nat.pow 2 53

/-- The zero of a sign. -/
def zero (negative : Bool) : Binary64 :=
  ⟨negative, 0, leastExponent⟩

/-- Whether a number is one of the two zeros. -/
def isZero (number : Binary64) : Bool :=
  number.significand == 0

/-- The same number with the other sign. -/
def negate (number : Binary64) : Binary64 :=
  { number with negative := !number.negative }

/-- A fraction divided by a power of two, as a fraction. -/
def scale
    (numerator denominator : Nat)
    (exponent : Int) :
    Nat × Nat :=
  if exponent < 0 then
    (numerator * (Nat.pow 2 exponent.natAbs), denominator)
  else
    (numerator, denominator * (Nat.pow 2 exponent.natAbs))

/-- The nearest integer to a fraction; a tie goes to the even integer. -/
def roundHalfEven (numerator denominator : Nat) : Nat :=
  let quotient := numerator / denominator
  let twice := 2 * (numerator % denominator)
  if twice < denominator then
    quotient
  else if denominator < twice then
    quotient + 1
  else
    quotient + quotient % 2

/--
The exponent at which a positive fraction has a significand of 53 bits, or the
least exponent if that is larger.
-/
def fittingExponent (numerator denominator : Nat) : Int :=
  let guess := (Nat.log2 numerator : Int) - (Nat.log2 denominator : Int) - 53
  let scaled := scale numerator denominator guess
  let exact := if scaled.1 / scaled.2 < significandLimit then guess else guess + 1
  max exact leastExponent

/--
The number nearest to a fraction, or `none` if that is beyond the largest
finite number.
-/
def round
    (negative : Bool)
    (numerator denominator : Nat) :
    Option Binary64 :=
  if numerator = 0 then
    some (zero negative)
  else
    let exponent := fittingExponent numerator denominator
    let scaled := scale numerator denominator exponent
    let significand := roundHalfEven scaled.1 scaled.2
    let carried : Binary64 :=
      if significand < significandLimit then
        ⟨negative, significand, exponent⟩
      else
        ⟨negative, significand / 2, exponent + 1⟩
    if greatestExponent < carried.exponent then none else some carried

/-- The magnitude of a number as a fraction. -/
def fraction (number : Binary64) : Nat × Nat :=
  if number.exponent < 0 then
    (number.significand, Nat.pow 2 number.exponent.natAbs)
  else
    (number.significand * (Nat.pow 2 number.exponent.natAbs), 1)

/-- The number nearest to an integer. -/
def ofNat (value : Nat) : Option Binary64 :=
  round false value 1

/-- The number nearest to `digits * 10 ^ exponent`. -/
def ofDecimal
    (negative : Bool)
    (digits : Nat)
    (exponent : Int) :
    Option Binary64 :=
  if exponent < 0 then
    round negative digits (Nat.pow 10 exponent.natAbs)
  else
    round negative (digits * (Nat.pow 10 exponent.natAbs)) 1

/-- The product, rounded, or `none` if it is too large. -/
def mul (left right : Binary64) : Option Binary64 :=
  let leftFraction := left.fraction
  let rightFraction := right.fraction
  round (left.negative != right.negative)
    (leftFraction.1 * rightFraction.1)
    (leftFraction.2 * rightFraction.2)

/-- The quotient by a number other than zero, rounded, or `none` if too large. -/
def div (left right : Binary64) : Option Binary64 :=
  let leftFraction := left.fraction
  let rightFraction := right.fraction
  round (left.negative != right.negative)
    (leftFraction.1 * rightFraction.2)
    (leftFraction.2 * rightFraction.1)

example : ofNat 1 = some ⟨false, Nat.pow 2 52, -52⟩ := by decide
example : ofDecimal false 1 (-1) = some ⟨false, 7205759403792794, -56⟩ := by decide
example : ofDecimal false 1 309 = none := by decide +kernel
example : ofDecimal true 1 (-400) = some (zero true) := by decide +kernel

end Binary64

end ApiTree.Number
