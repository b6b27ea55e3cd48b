import ApiTree.Number.Binary64

namespace ApiTree.Number

/-!
# Shortest decimal text

A finite number is written with the fewest decimal digits that still read back
as the same number; of the decimals with so few digits the nearest one is
taken, and the even digit on a tie.  How the digits are laid out is a
`Layout`, one value for each format.
-/

/-- The digits `digits * 10 ^ exponent`, a magnitude. -/
structure Decimal where
  digits : Nat
  exponent : Int
  deriving Repr, DecidableEq

namespace Decimal

/-- Whether a decimal reads back as a given magnitude. -/
def readsAs
    (decimal : Decimal)
    (number : Binary64) :
    Bool :=
  Binary64.ofDecimal number.negative decimal.digits decimal.exponent ==
    some number

/-- A decimal of the given exponent next below a fraction. -/
def floorAt
    (numerator denominator : Nat)
    (exponent : Int) :
    Nat :=
  if exponent < 0 then
    numerator * (Nat.pow 10 exponent.natAbs) / denominator
  else
    numerator / (denominator * (Nat.pow 10 exponent.natAbs))

/--
Twice the distance from a fraction to the decimal below it, compared with one
unit of the given exponent.
-/
def compareToHalf
    (numerator denominator : Nat)
    (exponent : Int) :
    Ordering :=
  if exponent < 0 then
    let scaled := numerator * (Nat.pow 10 exponent.natAbs)
    compare (2 * (scaled % denominator)) denominator
  else
    let unit := denominator * (Nat.pow 10 exponent.natAbs)
    compare (2 * (numerator % unit)) unit

/--
The decimal of a given exponent that reads back as the number: of its two
neighbours the nearer that does, the even one on a tie.
-/
def atExponent?
    (number : Binary64)
    (exponent : Int) :
    Option Decimal :=
  let fraction := number.fraction
  let below := floorAt fraction.1 fraction.2 exponent
  let lower : Decimal := ⟨below, exponent⟩
  let upper : Decimal := ⟨below + 1, exponent⟩
  match lower.readsAs number, upper.readsAs number with
  | false, false => none
  | true, false => some lower
  | false, true => some upper
  | true, true =>
      match compareToHalf fraction.1 fraction.2 exponent with
      | .lt => some lower
      | .gt => some upper
      | .eq => if below % 2 = 0 then some lower else some upper

/-- How often ten divides a number, up to a bound, and the cofactor. -/
def stripZeros : Nat → Nat → Int → Decimal
  | 0, digits, exponent => ⟨digits, exponent⟩
  | bound + 1, digits, exponent =>
      if digits ≠ 0 ∧ digits % 10 = 0 then
        stripZeros bound (digits / 10) (exponent + 1)
      else
        ⟨digits, exponent⟩

/-- The first exponent, going down, at which some decimal reads back. -/
def searchDown
    (number : Binary64) :
    Nat → Int → Option Decimal
  | 0, _ => none
  | steps + 1, exponent =>
      match atExponent? number exponent with
      | some decimal => some decimal
      | none => searchDown number steps (exponent - 1)

/-- An exponent not below that of the leading digit of a fraction. -/
def leadingExponent (numerator denominator : Nat) : Int :=
  let bits := (Nat.log2 numerator : Int) - (Nat.log2 denominator : Int) + 1
  bits * 30103 / 100000 + 1

/-- The shortest decimal that reads back as a number other than zero. -/
def shortest (number : Binary64) : Decimal :=
  let fraction := number.fraction
  let start := leadingExponent fraction.1 fraction.2
  match searchDown number 22 start with
  | some decimal => stripZeros 400 decimal.digits decimal.exponent
  | none => ⟨fraction.1 / fraction.2, 0⟩

end Decimal

/-- How the digits of a number are laid out. -/
structure Layout where
  /-- The least power of ten of the leading digit that is written positionally. -/
  leastPositional : Int
  /-- The greatest such power. -/
  greatestPositional : Int
  /-- The least number of digits of a written exponent. -/
  exponentDigits : Nat
  deriving Repr, DecidableEq

namespace Layout

/-- The decimal digits of a number, at least as many as asked for. -/
def paddedDigits
    (width : Nat)
    (value : Nat) :
    List Char :=
  let digits := (toString value).toList
  List.replicate (width - digits.length) '0' ++ digits

/-- The exponent of scientific notation: its sign is always written. -/
def exponentText
    (layout : Layout)
    (power : Int) :
    List Char :=
  let sign := if power < 0 then '-' else '+'
  'e' :: sign :: paddedDigits layout.exponentDigits power.natAbs

/-- Digits with a point after the given number of them, and at least one after the point. -/
def pointAfter
    (count : Nat)
    (digits : List Char) :
    List Char :=
  let padded := digits ++ List.replicate (count - digits.length) '0'
  let fractional := padded.drop count
  padded.take count ++ '.' :: (if fractional.isEmpty then ['0'] else fractional)

/-- The magnitude `digits * 10 ^ exponent` laid out. -/
def magnitudeText
    (layout : Layout)
    (decimal : Decimal) :
    List Char :=
  let digits := (toString decimal.digits).toList
  let power := decimal.exponent + (digits.length : Int) - 1
  if power < layout.leastPositional ∨ layout.greatestPositional < power then
    let mantissa :=
      match digits with
      | first :: second :: rest => first :: '.' :: second :: rest
      | short => short
    mantissa ++ layout.exponentText power
  else if power < 0 then
    '0' :: '.' :: List.replicate (power.natAbs - 1) '0' ++ digits
  else
    pointAfter (power.natAbs + 1) digits

/-- The text of a number: its sign, then its shortest magnitude. -/
def format
    (layout : Layout)
    (number : Binary64) :
    String :=
  let magnitude :=
    if number.isZero then
      ['0', '.', '0']
    else
      layout.magnitudeText (Decimal.shortest number)
  String.ofList (if number.negative then '-' :: magnitude else magnitude)

end Layout

end ApiTree.Number
