import ApiTree.Json.Numeral
import Mathlib.Tactic.Choose

namespace ApiTree.Json

/-!
# Complete number literals

A literal that is scanned to its end is scanned in the same way wherever it stands,
as long as what follows cannot be a part of it.  Its place is remembered for the
faults only, and the number that it stands for does not depend on it.
-/

/-- That a text is over, or that a mark or the end of a line follows. -/
def Delimited (rest : List Char) : Prop :=
  ∀ char ∈ rest.head?, char = ',' ∨ char = ']' ∨ char = '\x7d' ∨ char = '\r'

theorem delimited_nil : Delimited [] := by
  simp [Delimited]

variable
    {chars rest : List Char}

theorem Delimited.digit?_eq
    (delimited : Delimited rest)
    {char : Char}
    {others : List Char}
    (split : rest = char :: others) :
    digit? char = none := by
  subst split
  rcases delimited char rfl with rfl | rfl | rfl | rfl <;> decide

/-! ## The parts of a literal -/

theorem takeDigits_append
    (delimited : Delimited rest)
    (chars : List Char) :
    takeDigits (chars ++ rest) =
      ((takeDigits chars).1, (takeDigits chars).2 ++ rest) := by
  induction chars with
  | nil =>
      cases rest with
      | nil => rfl
      | cons char others => simp [takeDigits, delimited.digit?_eq rfl]
  | cons char chars inductionHypothesis =>
      rw [List.cons_append, takeDigits, takeDigits]
      cases digit? char with
      | none => rfl
      | some digit => simp [inductionHypothesis]

theorem scanWhole_append
    {first : Nat}
    {digits : List Nat}
    {left : List Char}
    (delimited : Delimited rest)
    (scanned : scanWhole first chars = .ok (digits, left))
    (offset : Nat) :
    scanWhole offset (chars ++ rest) = .ok (digits, left ++ rest) := by
  rw [scanWhole] at scanned ⊢
  rw [takeDigits_append delimited]
  generalize takeDigits chars = parts at scanned ⊢
  obtain ⟨taken, others⟩ := parts
  split at scanned
  · cases scanned
  · cases scanned
  · rename_i notEmpty noZero
    cases scanned
    split
    · rename_i same
      cases same
      exact (notEmpty _ rfl).elim
    · rename_i same
      cases same
      exact (noZero _ _ _ rfl).elim
    · rfl

theorem scanFraction_append
    {first : Nat}
    {fraction : Option (List Nat)}
    {left : List Char}
    (delimited : Delimited rest)
    (scanned : scanFraction first chars = .ok (fraction, left))
    (offset : Nat) :
    scanFraction offset (chars ++ rest) = .ok (fraction, left ++ rest) := by
  rw [scanFraction.eq_def] at scanned
  split at scanned
  · rename_i afterPoint
    rw [List.cons_append, scanFraction, takeDigits_append delimited]
    generalize takeDigits afterPoint = parts at scanned ⊢
    obtain ⟨taken, others⟩ := parts
    cases taken with
    | nil => cases scanned
    | cons => cases scanned; rfl
  · rename_i noPoint
    cases scanned
    rw [scanFraction]
    intro others startsWith
    cases chars with
    | nil =>
        rcases delimited '.' (by rw [← List.nil_append rest, startsWith]; rfl) with
          other | other | other | other <;> cases other
    | cons char chars =>
        obtain ⟨rfl, -⟩ := List.cons.inj startsWith
        exact noPoint _ rfl

theorem exponentSign_append
    (delimited : Delimited rest)
    (chars : List Char) :
    exponentSign (chars ++ rest) =
      ((exponentSign chars).1, (exponentSign chars).2.1,
        (exponentSign chars).2.2 ++ rest) := by
  cases chars with
  | nil =>
      cases rest with
      | nil => rfl
      | cons char others =>
          rcases delimited char rfl with rfl | rfl | rfl | rfl <;> rfl
  | cons char chars =>
      rw [exponentSign.eq_def (char :: chars)]
      split <;> simp_all [exponentSign]

theorem scanExponent_append
    {first start : Nat}
    {exponent : Option (Bool × List Nat)}
    {left : List Char}
    (delimited : Delimited rest)
    (scanned : scanExponent first chars = .ok (exponent, start, left))
    (offset : Nat) :
    ∃ other, scanExponent offset (chars ++ rest) =
      .ok (exponent, other, left ++ rest) := by
  cases chars with
  | nil =>
      cases scanned
      cases rest with
      | nil => exact ⟨_, rfl⟩
      | cons char others =>
          rcases delimited char rfl with rfl | rfl | rfl | rfl <;> exact ⟨_, rfl⟩
  | cons mark afterMark =>
      rw [scanExponent] at scanned
      rw [List.cons_append, scanExponent]
      by_cases isMark : mark = 'e' ∨ mark = 'E'
      · rw [if_pos isMark] at scanned
        rw [if_pos isMark, exponentSign_append delimited]
        generalize exponentSign afterMark = signed at scanned ⊢
        obtain ⟨negative, width, digitChars⟩ := signed
        simp only [takeDigits_append delimited] at scanned ⊢
        generalize takeDigits digitChars = parts at scanned ⊢
        obtain ⟨taken, others⟩ := parts
        cases taken with
        | nil => cases scanned
        | cons => cases scanned; exact ⟨_, rfl⟩
      · rw [if_neg isMark] at scanned
        cases scanned
        exact ⟨offset, if_neg isMark⟩

/-! ## Parts that break off -/

theorem scanWhole_append_error
    {first : Nat}
    {fault : NumeralFault}
    (delimited : Delimited rest)
    (failed : scanWhole first chars = .error fault)
    (offset : Nat) :
    ∃ other, scanWhole offset (chars ++ rest) = .error other := by
  rw [scanWhole] at failed ⊢
  rw [takeDigits_append delimited]
  generalize takeDigits chars = parts at failed ⊢
  obtain ⟨taken, others⟩ := parts
  split at failed
  · rename_i same
    cases same
    exact ⟨_, rfl⟩
  · rename_i same
    cases same
    exact ⟨_, rfl⟩
  · cases failed

theorem scanFraction_append_error
    {first : Nat}
    {fault : NumeralFault}
    (delimited : Delimited rest)
    (failed : scanFraction first chars = .error fault)
    (offset : Nat) :
    ∃ other, scanFraction offset (chars ++ rest) = .error other := by
  rw [scanFraction.eq_def] at failed
  split at failed
  · rename_i afterPoint
    rw [List.cons_append, scanFraction, takeDigits_append delimited]
    generalize takeDigits afterPoint = parts at failed ⊢
    obtain ⟨taken, others⟩ := parts
    cases taken with
    | nil => exact ⟨_, rfl⟩
    | cons => cases failed
  · cases failed

theorem scanExponent_append_error
    {first : Nat}
    {fault : NumeralFault}
    (delimited : Delimited rest)
    (failed : scanExponent first chars = .error fault)
    (offset : Nat) :
    ∃ other, scanExponent offset (chars ++ rest) = .error other := by
  cases chars with
  | nil => cases failed
  | cons mark afterMark =>
      rw [scanExponent] at failed
      rw [List.cons_append, scanExponent]
      by_cases isMark : mark = 'e' ∨ mark = 'E'
      · rw [if_pos isMark] at failed
        rw [if_pos isMark, exponentSign_append delimited]
        generalize exponentSign afterMark = signed at failed ⊢
        obtain ⟨negative, width, digitChars⟩ := signed
        simp only [takeDigits_append delimited] at failed ⊢
        generalize takeDigits digitChars = parts at failed ⊢
        obtain ⟨taken, others⟩ := parts
        cases taken with
        | nil => exact ⟨_, rfl⟩
        | cons => cases failed
      · rw [if_neg isMark] at failed
        cases failed

/-! ## Whole literals -/

/-- That two literals have the same parts, wherever they stand. -/
structure SameParts (one other : Numeral) : Prop where
  negative_eq : other.negative = one.negative
  whole_eq : other.whole = one.whole
  fraction_eq : other.fraction = one.fraction
  exponent_eq : other.exponent = one.exponent

/-- The sign of a literal and what follows it. -/
def splitSign : List Char → Bool × List Char
  | '-' :: rest => (true, rest)
  | rest => (false, rest)

theorem splitSign_append
    (delimited : Delimited rest)
    (chars : List Char) :
    splitSign (chars ++ rest) =
      ((splitSign chars).1, (splitSign chars).2 ++ rest) := by
  cases chars with
  | nil =>
      cases rest with
      | nil => rfl
      | cons char others =>
          rcases delimited char rfl with rfl | rfl | rfl | rfl <;> rfl
  | cons char chars =>
      rw [splitSign.eq_def (char :: chars)]
      split <;> simp_all [splitSign]

/-- The parts of a literal are scanned one after the other. -/
theorem scanNumeral_eq
    (offset : Nat)
    (chars : List Char) :
    scanNumeral offset chars =
      (do
        let wholeStart := if (splitSign chars).1 then offset + 1 else offset
        let (whole, afterWhole) ← scanWhole wholeStart (splitSign chars).2
        let wholeStop := wholeStart + whole.length
        let (fraction, afterFraction) ← scanFraction wholeStop afterWhole
        let fractionStop :=
          match fraction with
          | some digits => wholeStop + 1 + digits.length
          | none => wholeStop
        let (exponent, exponentStart, rest) ←
          scanExponent fractionStop afterFraction
        let stop :=
          match exponent with
          | some (_, digits) => exponentStart + digits.length
          | none => fractionStop
        .ok (⟨(splitSign chars).1, whole, fraction, exponent, exponentStart, stop⟩,
          rest)) :=
  rfl

/-- A literal is scanned in the same way wherever it stands. -/
theorem scanNumeral_append
    {first : Nat}
    {numeral : Numeral}
    {left : List Char}
    (delimited : Delimited rest)
    (scanned : scanNumeral first chars = .ok (numeral, left))
    (offset : Nat) :
    ∃ other, scanNumeral offset (chars ++ rest) = .ok (other, left ++ rest) ∧
      SameParts numeral other := by
  rw [scanNumeral_eq] at scanned
  rw [scanNumeral_eq, splitSign_append delimited]
  generalize splitSign chars = signed at scanned ⊢
  obtain ⟨negative, digitChars⟩ := signed
  simp only [bind, Except.bind] at scanned ⊢
  cases wholeScanned : scanWhole (if negative then first + 1 else first) digitChars with
  | error fault =>
      rw [wholeScanned] at scanned
      cases scanned
  | ok parts =>
      obtain ⟨whole, afterWhole⟩ := parts
      rw [wholeScanned] at scanned
      simp only [scanWhole_append delimited wholeScanned] at scanned ⊢
      split at scanned
      · cases scanned
      · rename_i parts fractionScanned
        obtain ⟨fraction, afterFraction⟩ := parts
        simp only [scanFraction_append delimited fractionScanned] at scanned ⊢
        split at scanned
        · cases scanned
        · rename_i parts exponentScanned
          obtain ⟨exponent, start, others⟩ := parts
          choose starts scannedToo using
            scanExponent_append delimited exponentScanned
          cases scanned
          simp only [scannedToo]
          exact ⟨_, rfl, rfl, rfl, rfl, rfl⟩

/-- A literal that breaks off breaks off wherever it stands. -/
theorem scanNumeral_append_error
    {first : Nat}
    {fault : NumeralFault}
    (delimited : Delimited rest)
    (failed : scanNumeral first chars = .error fault)
    (offset : Nat) :
    ∃ other, scanNumeral offset (chars ++ rest) = .error other := by
  rw [scanNumeral_eq] at failed
  rw [scanNumeral_eq, splitSign_append delimited]
  generalize splitSign chars = signed at failed ⊢
  obtain ⟨negative, digitChars⟩ := signed
  simp only [bind, Except.bind] at failed ⊢
  cases wholeScanned : scanWhole (if negative then first + 1 else first) digitChars with
  | error wholeFault =>
      obtain ⟨other, wholeFailed⟩ := scanWhole_append_error delimited wholeScanned
        (if negative then offset + 1 else offset)
      simp only [wholeFailed]
      exact ⟨_, rfl⟩
  | ok parts =>
      obtain ⟨whole, afterWhole⟩ := parts
      rw [wholeScanned] at failed
      simp only [scanWhole_append delimited wholeScanned] at failed ⊢
      split at failed
      · rename_i fractionScanned
        choose others fractionFailed using
          scanFraction_append_error delimited fractionScanned
        simp only [fractionFailed]
        exact ⟨_, rfl⟩
      · rename_i parts fractionScanned
        obtain ⟨fraction, afterFraction⟩ := parts
        simp only [scanFraction_append delimited fractionScanned] at failed ⊢
        split at failed
        · rename_i exponentScanned
          choose others exponentFailed using
            scanExponent_append_error delimited exponentScanned
          simp only [exponentFailed]
          exact ⟨_, rfl⟩
        · cases failed

theorem toOption_scaledWord
    (negative : Bool)
    (word : Nat)
    (exponent : Int)
    (stop other : Nat) :
    (scaledWord negative word exponent stop).toOption =
      (scaledWord negative word exponent other).toOption := by
  rw [scaledWord, scaledWord]
  split <;> rfl

/-- The number that a literal stands for does not depend on its place. -/
theorem SameParts.toOption_value_eq
    {one other : Numeral}
    (same : SameParts one other) :
    other.value.toOption = one.value.toOption := by
  obtain ⟨negative, whole, fraction, exponent, start, stop⟩ := other
  obtain ⟨_, _, _, _, otherStart, otherStop⟩ := one
  obtain ⟨rfl, rfl, rfl, rfl⟩ := same
  have scaled (word : Nat) (power : Int) :
      (Numeral.scaled ⟨negative, whole, fraction, exponent, start, stop⟩
          word power).toOption =
        (Numeral.scaled ⟨negative, whole, fraction, exponent, otherStart, otherStop⟩
          word power).toOption := by
    simp only [Numeral.scaled]
    cases exponent with
    | none => exact toOption_scaledWord _ _ _ _ _
    | some spelled =>
        obtain ⟨isNegative, digits⟩ := spelled
        cases overflow : exponentOverflow? 0 0 digits with
        | none =>
            simp only [overflow]
            exact toOption_scaledWord _ _ _ _ _
        | some count =>
            simp only [overflow]
            split <;> rfl
  simp only [Numeral.value]
  cases fraction with
  | some digits => exact scaled _ _
  | none =>
      simp only
      split
      · rfl
      · exact scaled _ _

/-- That a text is a number literal. -/
def IsNumeral (chars : List Char) : Prop :=
  ∃ numeral, scanNumeral 0 chars = .ok (numeral, [])

/-- The number that a literal stands for, unless it is too large. -/
def numberOf? (chars : List Char) : Option Number :=
  match scanNumeral 0 chars with
  | .ok (numeral, []) => numeral.value.toOption
  | _ => none

/-- A literal that something delimits is scanned to its end. -/
theorem IsNumeral.scans
    (isNumeral : IsNumeral chars)
    (delimited : Delimited rest)
    (offset : Nat) :
    ∃ numeral, scanNumeral offset (chars ++ rest) = .ok (numeral, rest) ∧
      numeral.value.toOption = numberOf? chars := by
  obtain ⟨first, scanned⟩ := isNumeral
  obtain ⟨numeral, scannedHere, same⟩ :=
    scanNumeral_append delimited scanned offset
  refine ⟨numeral, scannedHere, ?_⟩
  rw [numberOf?, scanned]
  exact same.toOption_value_eq

/-- A literal starts with a sign or a digit. -/
theorem IsNumeral.exists_cons
    (isNumeral : IsNumeral chars) :
    ∃ char others, chars = char :: others ∧
      (char = '-' ∨ (digit? char).isSome) := by
  obtain ⟨numeral, scanned⟩ := isNumeral
  cases chars with
  | nil => cases scanned
  | cons char others =>
      refine ⟨char, others, rfl, ?_⟩
      by_contra notStart
      obtain ⟨notSign, notDigit⟩ := not_or.mp notStart
      have unsigned : splitSign (char :: others) = (false, char :: others) := by
        rw [splitSign]
        simp [notSign]
      have noDigits : takeDigits (char :: others) = ([], char :: others) := by
        rw [takeDigits, Option.not_isSome_iff_eq_none.mp notDigit]
      rw [scanNumeral_eq, unsigned] at scanned
      simp only [scanWhole, noDigits] at scanned
      cases scanned

end ApiTree.Json
