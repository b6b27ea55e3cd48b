import ApiTree.Hint.Token

namespace ApiTree.Hint

/-!
# Numerals

Digits may be grouped by single underscores.  A numeral must not run into a
letter, except where one of a few keywords follows.
-/

/-- Whether a character is a decimal digit. -/
def isDecimal (char : Char) : Bool :=
  '0' ≤ char && char ≤ '9'

/-- The value of a digit in a base up to sixteen. -/
def digitValue?
    (base : Nat)
    (char : Char) :
    Option Nat :=
  let value? :=
    if isDecimal char then some (char.toNat - '0'.toNat)
    else if 'a' ≤ char ∧ char ≤ 'f' then some (char.toNat - 'a'.toNat + 10)
    else if 'A' ≤ char ∧ char ≤ 'F' then some (char.toNat - 'A'.toNat + 10)
    else none
  value?.bind fun value => if value < base then some value else none

/-- Whether a list starts with a digit of a base. -/
def startsWithDigit
    (base : Nat) :
    List Char → Bool
  | [] => false
  | char :: _ => (digitValue? base char).isSome

/--
The digits at the start of a list and what follows them.  An underscore stands
between digits only.
-/
def digitRun
    (base : Nat) :
    List Char → Option (List Nat × List Char)
  | [] => some ([], [])
  | char :: rest =>
      match digitValue? base char with
      | some value =>
          (digitRun base rest).map fun run => (value :: run.1, run.2)
      | none =>
          if char = '_' then
            if startsWithDigit base rest then digitRun base rest else none
          else
            some ([], char :: rest)

/-- The value of digits in a base. -/
def valueOfDigits
    (base : Nat)
    (digits : List Nat) :
    Nat :=
  digits.foldl (fun value digit => value * base + digit) 0

/-- Whether a character may stand in a name, as far as scanning can tell. -/
def isWordPart (char : Char) : Bool :=
  isDecimal char || ('a' ≤ char && char ≤ 'z') || ('A' ≤ char && char ≤ 'Z') ||
    char == '_' || 128 ≤ char.toNat

/-- Whether a character may start a name, as far as scanning can tell. -/
def isWordStart (char : Char) : Bool :=
  isWordPart char && !isDecimal char

/-- What may follow a numeral without a blank, although it starts with a letter. -/
def numeralFollowers : List String :=
  ["and", "else", "for", "if", "in", "is", "not", "or"]

/-- Whether a numeral may end before the given characters. -/
def endsNumeral (rest : List Char) : Bool :=
  numeralFollowers.any (fun word => word.toList.isPrefixOf rest) ||
    match rest with
    | [] => true
    | char :: _ => !isWordPart char

/-- A numeral of a base, given what follows its mark. -/
def basedNumeral
    (base : Nat)
    (chars : List Char) :
    Option (Constant × List Char) := do
  let digits :=
    match chars with
    | '_' :: rest => if startsWithDigit base rest then rest else chars
    | _ => chars
  let (run, rest) ← digitRun base digits
  if run.isEmpty || !endsNumeral rest then none
  some (.integer (valueOfDigits base run), rest)

/-- Whether a character is one of a lower-case letter's two cases. -/
def isLetter
    (letter char : Char) :
    Bool :=
  char == letter || char == Char.ofNat (letter.toNat - 32)

/-- An exponent: its value and what follows it, or `none` if there is none. -/
def exponentAt? : List Char → Option (Int × List Char)
  | mark :: '+' :: rest => exponentDigits mark false rest
  | mark :: '-' :: rest => exponentDigits mark true rest
  | mark :: rest => exponentDigits mark false rest
  | [] => none
where
  /-- The digits of an exponent. -/
  exponentDigits
      (mark : Char)
      (negative : Bool)
      (rest : List Char) :
      Option (Int × List Char) :=
    if isLetter 'e' mark && startsWithDigit 10 rest then
      (digitRun 10 rest).map fun run =>
        let value : Int := valueOfDigits 10 run.1
        (if negative then -value else value, run.2)
    else
      none

/-- Whether the characters start with the mark of an exponent and its sign. -/
def startsSignedExponent : List Char → Bool
  | mark :: '+' :: _ | mark :: '-' :: _ => isLetter 'e' mark
  | _ => false

/-- The fraction after a point: its digits and what follows them. -/
def fractionAt (rest : List Char) : Option (List Nat × List Char) :=
  if startsWithDigit 10 rest then digitRun 10 rest else some ([], rest)

/-- Whether digits are those of a number with needless zeros in front. -/
def hasLeadingZeros (digits : List Nat) : Bool :=
  digits.head? == some 0 && digits.any (· != 0)

/-- The integer of decimal digits, unless they are too many. -/
def decimalInteger? (digits : List Nat) : Option Constant :=
  if hasLeadingZeros digits ∨
      digitLimit < digits.length ∧ digits.head? ≠ some 0 then
    none
  else
    some (.integer (valueOfDigits 10 digits))

/-- The number of a decimal numeral. -/
def decimalReal
    (whole fraction : List Nat)
    (exponent : Int) :
    Real :=
  Real.ofDecimal (valueOfDigits 10 (whole ++ fraction))
    (exponent - fraction.length)

/--
Finishes a decimal numeral after its digits: an exponent, the mark of imaginary
numbers, and the check of what follows.
-/
def finishDecimal
    (whole : List Nat)
    (fraction : Option (List Nat))
    (rest : List Char) :
    Option (Constant × List Char) := do
  if startsSignedExponent rest && (exponentAt? rest).isNone then none
  let exponent? := exponentAt? rest
  let afterExponent := (exponent?.map (·.2)).getD rest
  let real :=
    decimalReal whole (fraction.getD []) ((exponent?.map (·.1)).getD 0)
  match afterExponent with
  | mark :: others =>
      if isLetter 'j' mark then
        if endsNumeral others then some (.complex .zero real, others) else none
      else
        plain exponent?.isSome real afterExponent
  | [] => plain exponent?.isSome real afterExponent
where
  /-- A numeral that is not imaginary. -/
  plain
      (hasExponent : Bool)
      (real : Real)
      (rest : List Char) :
      Option (Constant × List Char) := do
    if !endsNumeral rest then none
    if fraction.isSome || hasExponent then
      some (.real real, rest)
    else
      let integer ← decimalInteger? whole
      some (integer, rest)

/-- A decimal numeral. -/
def decimalNumeral (chars : List Char) : Option (Constant × List Char) := do
  let (whole, rest) ← digitRun 10 chars
  match rest with
  | '.' :: others =>
      let (fraction, afterFraction) ← fractionAt others
      finishDecimal whole (some fraction) afterFraction
  | _ => finishDecimal whole none rest

/-- The numeral at the start of characters that start with a digit or with a point and a digit. -/
def numeral : List Char → Option (Constant × List Char)
  | '0' :: mark :: rest =>
      if isLetter 'x' mark then basedNumeral 16 rest
      else if isLetter 'o' mark then basedNumeral 8 rest
      else if isLetter 'b' mark then basedNumeral 2 rest
      else decimalNumeral ('0' :: mark :: rest)
  | chars => decimalNumeral chars

end ApiTree.Hint
