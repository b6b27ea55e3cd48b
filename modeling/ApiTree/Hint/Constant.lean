import ApiTree.Number.Shortest
import ApiTree.Text.Quoted

namespace ApiTree.Hint

open ApiTree.Number (Binary64 Layout)

/-!
# Constants

The values that literals in a type expression stand for.  Some of them, such as
byte strings and sets, can be built but not be written; of these only what
decides about the rest is kept.

Strings are lists of code points, because a literal may hold surrogates.
-/

/-- A floating-point number, infinite ones included. -/
inductive Real where
  | finite (value : Binary64)
  | infinite (negative : Bool)
  deriving Repr, DecidableEq, Inhabited

/-- A constant. -/
inductive Constant where
  | null
  | bool (value : Bool)
  | integer (value : Int)
  | real (value : Real)
  | complex (realPart imaginaryPart : Real)
  | text (points : List Nat)
  | bytes
  | ellipsis
  | list (items : List Constant)
  | tuple (items : List Constant)
  | set
  | dict (entries : List (Constant × Constant))
  deriving Repr, Inhabited

namespace Real

/-- The number with the other sign. -/
def negate : Real → Real
  | .finite value => .finite value.negate
  | .infinite negative => .infinite !negative

/-- The zero without a sign. -/
def zero : Real :=
  .finite (.zero false)

/-- The number nearest to an integer, or `none` if it is too large. -/
def ofInt? (value : Int) : Option Real :=
  (Binary64.ofNat value.natAbs).map fun magnitude =>
    .finite { magnitude with negative := decide (value < 0) }

/-- The magnitude below which the leading digit of a decimal has to stand. -/
def greatestPower : Int := 310

/-- A decimal whose leading digit stands below this power of ten is rounded to zero. -/
def leastPower : Int := -330

/-- The number nearest to `digits * 10 ^ exponent`. -/
def ofDecimal
    (digits : Nat)
    (exponent : Int) :
    Real :=
  let power := exponent + (toString digits).length
  if digits = 0 ∨ power < leastPower then
    zero
  else if greatestPower < power then
    .infinite false
  else
    match Binary64.ofDecimal false digits exponent with
    | some value => .finite value
    | none => .infinite false

/-- How numbers are laid out. -/
def layout : Layout :=
  { leastPositional := -4
    greatestPositional := 15
    exponentDigits := 2 }

/-- The text of a number. -/
def text : Real → String
  | .finite value => layout.format value
  | .infinite false => "Infinity"
  | .infinite true => "-Infinity"

/-- A finite number as a signed fraction. -/
def fraction? : Real → Option (Int × Nat)
  | .finite value =>
      let (numerator, denominator) := value.fraction
      some (if value.negative then -(numerator : Int) else numerator, denominator)
  | .infinite _ => none

/-- Whether two numbers are equal; the sign of zero does not matter. -/
def equal : Real → Real → Bool
  | .infinite first, .infinite second => first == second
  | first, second =>
      match first.fraction?, second.fraction? with
      | some (top, bottom), some (otherTop, otherBottom) =>
          top * otherBottom == otherTop * bottom
      | _, _ => false

end Real

namespace Constant

/-- The real number that a constant is equal to, as an exact fraction or infinite. -/
inductive Amount where
  | fraction (numerator : Int) (denominator : Nat)
  | infinite (negative : Bool)

/-- The amount of a real number. -/
def amountOfReal (value : Real) : Amount :=
  match value with
  | .infinite negative => .infinite negative
  | .finite _ =>
      match value.fraction? with
      | some (numerator, denominator) => .fraction numerator denominator
      | none => .fraction 0 1

/-- The amount of a constant; truth counts as one. -/
def amount? : Constant → Option Amount
  | .bool value => some (.fraction (if value then 1 else 0) 1)
  | .integer value => some (.fraction value 1)
  | .real value => some (amountOfReal value)
  | .complex realPart imaginaryPart =>
      if imaginaryPart.equal .zero then some (amountOfReal realPart) else none
  | _ => none

/-- Whether two amounts are equal. -/
def Amount.equal : Amount → Amount → Bool
  | .fraction top bottom, .fraction otherTop otherBottom =>
      top * otherBottom == otherTop * bottom
  | .infinite first, .infinite second => first == second
  | _, _ => false

/--
Whether two constants are the same key of a dictionary.  Keys that cannot be
written need not be told apart, because a dictionary that has one cannot be
written anyway.
-/
def sameKey : Constant → Constant → Bool
  | .null, .null => true
  | .text first, .text second => first == second
  | first, second =>
      match first.amount?, second.amount? with
      | some firstAmount, some secondAmount => firstAmount.equal secondAmount
      | _, _ => false

mutual

/-- Whether a constant may be a key or an element of a set. -/
def isHashable : Constant → Bool
  | .list _ | .set | .dict _ => false
  | .tuple items => areHashable items
  | _ => true

/-- Whether all of several constants may be keys. -/
def areHashable : List Constant → Bool
  | [] => true
  | first :: rest => first.isHashable && areHashable rest

end

/-- Enters a value under a key.  A key that is there already keeps its place and its form. -/
def insertEntry
    (key value : Constant) :
    List (Constant × Constant) → List (Constant × Constant)
  | [] => [(key, value)]
  | (firstKey, firstValue) :: rest =>
      if firstKey.sameKey key then
        (firstKey, value) :: rest
      else
        (firstKey, firstValue) :: insertEntry key value rest

/-- Whether a constant by itself is no literal type. -/
def isUnsupported : Constant → Bool
  | .ellipsis | .bytes | .complex _ _ | .set => true
  | _ => false

end Constant

/-- The most decimal digits that an integer may have to be written or read. -/
def digitLimit : Nat := 4300

/-- One UTF-16 unit as an escape. -/
def unitEscape (code : Nat) : List Char :=
  '\\' :: 'u' :: ApiTree.Text.paddedHex 4 code

/-- One code point of a written string: only ASCII is written as it is. -/
def writePoint (point : Nat) : List Char :=
  if point = 0x22 then ['\\', '"']
  else if point = 0x5C then ['\\', '\\']
  else if point = 0x08 then ['\\', 'b']
  else if point = 0x0C then ['\\', 'f']
  else if point = 0x0A then ['\\', 'n']
  else if point = 0x0D then ['\\', 'r']
  else if point = 0x09 then ['\\', 't']
  else if 0x20 ≤ point ∧ point < 0x7F then [Char.ofNat point]
  else if point < 0x10000 then unitEscape point
  else
    unitEscape (0xD800 + (point - 0x10000) / 0x400) ++
      unitEscape (0xDC00 + (point - 0x10000) % 0x400)

/-- A written string. -/
def writeText (points : List Nat) : String :=
  String.ofList ('"' :: points.flatMap writePoint ++ ['"'])

/-- The code points of a text. -/
def pointsOf (text : String) : List Nat :=
  text.toList.map (·.toNat)

namespace Constant

/-- A written integer, unless it has too many digits. -/
def writeInteger? (value : Int) : Option String :=
  let digits := toString value
  if digitLimit < (toString value.natAbs).length then none else some digits

/-- A written key of a dictionary; keys are written as strings. -/
def writeKey? : Constant → Option String
  | .text points => some (writeText points)
  | .real value => some (writeText (pointsOf value.text))
  | .bool true => some "\"true\""
  | .bool false => some "\"false\""
  | .null => some "\"null\""
  | .integer value =>
      (writeInteger? value).map fun digits => writeText (pointsOf digits)
  | _ => none

/-- A written list of written items. -/
def writeItems (items : List String) : String :=
  "[" ++ String.intercalate ", " items ++ "]"

/-- A written dictionary of written keys and values. -/
def writeMembers (members : List String) : String :=
  "\x7b" ++ String.intercalate ", " members ++ "\x7d"

mutual

/-- A written constant, unless it is or holds one that cannot be written. -/
def write? : Constant → Option String
  | .null => some "null"
  | .bool true => some "true"
  | .bool false => some "false"
  | .integer value => writeInteger? value
  | .real value => some value.text
  | .text points => some (writeText points)
  | .list items => (writeAll? items).map writeItems
  | .tuple items => (writeAll? items).map writeItems
  | .dict entries => (writeEntries? entries).map writeMembers
  | .complex _ _ | .bytes | .ellipsis | .set => none

/-- Written items. -/
def writeAll? : List Constant → Option (List String)
  | [] => some []
  | first :: rest => do
      let item ← first.write?
      let items ← writeAll? rest
      some (item :: items)

/-- Written entries. -/
def writeEntries? : List (Constant × Constant) → Option (List String)
  | [] => some []
  | (key, value) :: rest => do
      let name ← key.writeKey?
      let content ← value.write?
      let members ← writeEntries? rest
      some ((name ++ ": " ++ content) :: members)

end

end Constant

end ApiTree.Hint
