import ApiTree.Json.Fault

namespace ApiTree.Json

open ApiTree.Number (Binary64)

/-!
# Number literals

A literal is scanned by the grammar of JSON numbers and then evaluated.  The
digits accumulate in a word of 64 bits; digits that no longer fit are counted
if they stand before the point and dropped if they stand after it.  The word is
then multiplied or divided by a power of ten, in steps of at most `10 ^ 308`,
rounding after each step.  The result is therefore not always the number
nearest to the literal.
-/

/-- The parts of a literal; `stop` is the offset after its last character. -/
structure Numeral where
  negative : Bool
  whole : List Nat
  fraction : Option (List Nat)
  exponent : Option (Bool × List Nat)
  /-- The offset of the first digit of the exponent. -/
  exponentStart : Nat
  stop : Nat
  deriving Repr, DecidableEq

/-- The value of a decimal digit. -/
def digit? (char : Char) : Option Nat :=
  if '0' ≤ char ∧ char ≤ '9' then some (char.toNat - '0'.toNat) else none

/-- The digits that a list starts with, and the rest. -/
def takeDigits : List Char → List Nat × List Char
  | [] => ([], [])
  | char :: rest =>
      match digit? char with
      | some digit =>
          let taken := takeDigits rest
          (digit :: taken.1, taken.2)
      | none => ([], char :: rest)

/-- Taking digits never lengthens the rest. -/
theorem length_takeDigits_le (chars : List Char) :
    (takeDigits chars).2.length ≤ chars.length := by
  induction chars with
  | nil => simp [takeDigits]
  | cons char rest inductionHypothesis =>
      simp only [takeDigits]
      split
      · simp only [List.length_cons]
        omega
      · simp

/--
Why a literal breaks off, for a reader that keeps the number and for one that
only skips it: where the text ends inside the literal, the first reports an
unfinished value and the second a malformed number.
-/
structure NumeralFault where
  reading : Fault
  skipping : Fault
  deriving Repr, DecidableEq

/-- The fault of a text that ends inside a literal. -/
def NumeralFault.atEnd (offset : Nat) : NumeralFault :=
  ⟨⟨.endInValue, offset⟩, ⟨.invalidNumber, offset⟩⟩

/-- The fault of a character that does not belong into a literal. -/
def NumeralFault.inside (offset : Nat) : NumeralFault :=
  ⟨⟨.invalidNumber, offset⟩, ⟨.invalidNumber, offset⟩⟩

/-- The fault at whatever follows the offset. -/
def NumeralFault.before
    (offset : Nat)
    (rest : List Char) :
    NumeralFault :=
  match rest with
  | [] => .atEnd offset
  | _ => .inside (offset + 1)

/-- Scans the digits of the whole part: no zero before another digit. -/
def scanWhole
    (offset : Nat)
    (chars : List Char) :
    Except NumeralFault (List Nat × List Char) :=
  match takeDigits chars with
  | ([], rest) => .error (.before offset rest)
  | (0 :: _ :: _, _) => .error (.inside (offset + 2))
  | taken => .ok taken

/-- Scans the point and the digits after it, if there is a point. -/
def scanFraction
    (offset : Nat)
    (chars : List Char) :
    Except NumeralFault (Option (List Nat) × List Char) :=
  match chars with
  | '.' :: afterPoint =>
      match takeDigits afterPoint with
      | ([], rest) => .error (.before (offset + 1) rest)
      | (digits, rest) => .ok (some digits, rest)
  | _ => .ok (none, chars)

/-- The sign of an exponent, how many characters it takes, and the rest. -/
def exponentSign : List Char → Bool × Nat × List Char
  | '+' :: rest => (false, 1, rest)
  | '-' :: rest => (true, 1, rest)
  | rest => (false, 0, rest)

/-- A sign never lengthens the rest. -/
theorem length_exponentSign_le (chars : List Char) :
    (exponentSign chars).2.2.length ≤ chars.length := by
  unfold exponentSign
  split <;> simp

/-- Scans the exponent, if there is one. -/
def scanExponent
    (offset : Nat)
    (chars : List Char) :
    Except NumeralFault (Option (Bool × List Nat) × Nat × List Char) :=
  match chars with
  | mark :: afterMark =>
      if mark = 'e' ∨ mark = 'E' then
        let (negative, width, digitChars) := exponentSign afterMark
        let start := offset + 1 + width
        match takeDigits digitChars with
        | ([], rest) => .error (.before start rest)
        | (digits, rest) => .ok (some (negative, digits), start, rest)
      else
        .ok (none, offset, chars)
  | [] => .ok (none, offset, chars)

/-- Scans a literal that starts with a sign or a digit. -/
def scanNumeral
    (offset : Nat)
    (chars : List Char) :
    Except NumeralFault (Numeral × List Char) := do
  let (negative, unsigned) :=
    match chars with
    | '-' :: rest => (true, rest)
    | rest => (false, rest)
  let wholeStart := if negative then offset + 1 else offset
  let (whole, afterWhole) ← scanWhole wholeStart unsigned
  let wholeStop := wholeStart + whole.length
  let (fraction, afterFraction) ← scanFraction wholeStop afterWhole
  let fractionStop :=
    match fraction with
    | some digits => wholeStop + 1 + digits.length
    | none => wholeStop
  let (exponent, exponentStart, rest) ← scanExponent fractionStop afterFraction
  let stop :=
    match exponent with
    | some (_, digits) => exponentStart + digits.length
    | none => fractionStop
  .ok (⟨negative, whole, fraction, exponent, exponentStart, stop⟩, rest)

/-- A whole part takes at least one digit. -/
theorem length_scanWhole
    {offset : Nat}
    {chars rest : List Char}
    {digits : List Nat}
    (success : scanWhole offset chars = .ok (digits, rest)) :
    rest.length < chars.length := by
  cases chars with
  | nil => simp [scanWhole, takeDigits] at success
  | cons char others =>
      unfold scanWhole at success
      cases first : digit? char with
      | none => simp [takeDigits, first] at success
      | some digit =>
          have shorter := length_takeDigits_le others
          simp only [takeDigits, first] at success
          split at success
          · cases success
          · cases success
          · simp only [Except.ok.injEq, Prod.mk.injEq] at success
            rw [← success.2, List.length_cons]
            omega

/-- A fraction never lengthens the rest. -/
theorem length_scanFraction_le
    {offset : Nat}
    {chars rest : List Char}
    {fraction : Option (List Nat)}
    (success : scanFraction offset chars = .ok (fraction, rest)) :
    rest.length ≤ chars.length := by
  unfold scanFraction at success
  split at success
  · rename_i afterPoint
    have shorter := length_takeDigits_le afterPoint
    split at success
    · cases success
    · rename_i taken
      simp only [Except.ok.injEq, Prod.mk.injEq] at success
      rw [taken] at shorter
      rw [← success.2, List.length_cons]
      simp only at shorter
      omega
  · simp only [Except.ok.injEq, Prod.mk.injEq] at success
    exact Nat.le_of_eq (by rw [success.2])

/-- An exponent never lengthens the rest. -/
theorem length_scanExponent_le
    {offset start : Nat}
    {chars rest : List Char}
    {exponent : Option (Bool × List Nat)}
    (success : scanExponent offset chars = .ok (exponent, start, rest)) :
    rest.length ≤ chars.length := by
  unfold scanExponent at success
  split at success
  · rename_i mark afterMark
    split at success
    · have signShorter := length_exponentSign_le afterMark
      have shorter := length_takeDigits_le (exponentSign afterMark).2.2
      simp only at success
      split at success
      · cases success
      · rename_i taken
        simp only [Except.ok.injEq, Prod.mk.injEq] at success
        rw [taken] at shorter
        rw [← success.2.2, List.length_cons]
        simp only at shorter
        omega
    · simp only [Except.ok.injEq, Prod.mk.injEq] at success
      exact Nat.le_of_eq (by rw [success.2.2])
  · simp only [Except.ok.injEq, Prod.mk.injEq] at success
    exact Nat.le_of_eq (by rw [success.2.2])

/-- A literal takes at least one character. -/
theorem length_scanNumeral
    {offset : Nat}
    {chars rest : List Char}
    {numeral : Numeral}
    (success : scanNumeral offset chars = .ok (numeral, rest)) :
    rest.length < chars.length := by
  unfold scanNumeral at success
  split at success
  rename_i negative unsigned signed
  have unsignedShorter : unsigned.length ≤ chars.length := by
    split at signed
    · cases signed
      simp
    · cases signed
      exact Nat.le_refl _
  simp only [bind, Except.bind] at success
  split at success
  · cases success
  · rename_i whole wholeScanned
    have wholeShorter := length_scanWhole wholeScanned
    split at success
    · cases success
    · rename_i fraction fractionScanned
      have fractionShorter := length_scanFraction_le fractionScanned
      split at success
      · cases success
      · rename_i exponent exponentScanned
        have exponentShorter := length_scanExponent_le exponentScanned
        simp only [Except.ok.injEq, Prod.mk.injEq] at success
        rw [← success.2]
        omega

/-- The largest word of 64 bits. -/
def wordLimit : Nat := Nat.pow 2 64 - 1

/-- The largest exponent that a literal may spell out. -/
def exponentLimit : Nat := Nat.pow 2 31 - 1

/--
Adds digits to a word while it fits.  The second component counts the digits
that were added; the third holds the digits that were left.
-/
def fillWord
    (word : Nat) :
    List Nat → Nat × Nat × List Nat
  | [] => (word, 0, [])
  | digit :: rest =>
      if wordLimit < word * 10 + digit then
        (word, 0, digit :: rest)
      else
        let (filled, count, left) := fillWord (word * 10 + digit) rest
        (filled, count + 1, left)

/-- How many digits of an exponent are read before it exceeds its limit. -/
def exponentOverflow?
    (value : Nat)
    (count : Nat) :
    List Nat → Option Nat
  | [] => none
  | digit :: rest =>
      if exponentLimit < value * 10 + digit then
        some (count + 1)
      else
        exponentOverflow? (value * 10 + digit) (count + 1) rest

/-- The number that decimal digits spell. -/
def digitsValue (digits : List Nat) : Nat :=
  digits.foldl (fun value digit => value * 10 + digit) 0

/-- The largest power of ten that is a finite binary64. -/
def greatestPower : Nat := 308

/-- A power of ten as a binary64. -/
def powerOfTen (exponent : Nat) : Binary64 :=
  (Binary64.ofNat (Nat.pow 10 exponent)).getD (Binary64.zero false)

/--
Scales a number by a power of ten, in steps of at most `10 ^ 308`; `none` when
it grows too large.
-/
def scaleByTen
    (number : Binary64)
    (exponent : Int) :
    Option Binary64 :=
  if exponent.natAbs ≤ greatestPower then
    if exponent < 0 then
      number.div (powerOfTen exponent.natAbs)
    else
      number.mul (powerOfTen exponent.natAbs)
  else if number.isZero then
    some number
  else if 0 ≤ exponent then
    none
  else
    (number.div (powerOfTen greatestPower)).bind fun smaller =>
      scaleByTen smaller (exponent + greatestPower)
termination_by exponent.natAbs
decreasing_by
  rename_i beyond _ negative
  have _ : 308 < exponent.natAbs := Nat.lt_of_not_le beyond
  have shifted : (exponent + (greatestPower : Int)) = exponent + 308 := rfl
  rw [shifted]
  omega

/-- A word scaled by a power of ten, as a number with a sign. -/
def scaledWord
    (negative : Bool)
    (word : Nat)
    (exponent : Int)
    (stop : Nat) :
    Except Fault Number :=
  match (Binary64.ofNat word).bind (scaleByTen · exponent) with
  | some magnitude =>
      .ok (.real (if negative then magnitude.negate else magnitude))
  | none => .error ⟨.numberOutOfRange, stop⟩

/-- The value of a literal without point and exponent whose digits fit a word. -/
def integerOrReal
    (negative : Bool)
    (word : Nat) :
    Number :=
  if !negative then
    .integer word
  else if word = 0 ∨ negativeLimit < word then
    .real (((Binary64.ofNat word).getD (Binary64.zero false)).negate)
  else
    .integer (-(word : Int))

/-- The value of a literal, given its word and the power of ten it stands at. -/
def Numeral.scaled
    (numeral : Numeral)
    (word : Nat)
    (power : Int) :
    Except Fault Number :=
  match numeral.exponent with
  | none => scaledWord numeral.negative word power numeral.stop
  | some (negativeExponent, digits) =>
      match exponentOverflow? 0 0 digits with
      | some count =>
          if word ≠ 0 ∧ !negativeExponent then
            .error ⟨.numberOutOfRange, numeral.exponentStart + count⟩
          else
            .ok (.real (Binary64.zero numeral.negative))
      | none =>
          let spelled : Int := digitsValue digits
          let exponent := if negativeExponent then power - spelled else power + spelled
          scaledWord numeral.negative word exponent numeral.stop

/-- The value of a literal. -/
def Numeral.value (numeral : Numeral) : Except Fault Number :=
  let (wholeWord, _, wholeLeft) := fillWord 0 numeral.whole
  match numeral.fraction with
  | some digits =>
      let (word, count, _) := fillWord wholeWord digits
      numeral.scaled word ((wholeLeft.length : Int) - count)
  | none =>
      if wholeLeft.isEmpty ∧ numeral.exponent.isNone then
        .ok (integerOrReal numeral.negative wholeWord)
      else
        numeral.scaled wholeWord wholeLeft.length

end ApiTree.Json
