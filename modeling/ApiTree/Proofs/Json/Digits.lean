import ApiTree.Json.Value
import ApiTree.Proofs.Json.Numerals
import Mathlib.Data.Nat.Digits.Defs

namespace ApiTree.Json

open ApiTree.Number (Binary64 Decimal Layout)

/-!
# Numbers that are written

What an integer or a finite number is written as is one number literal: its whole
part has no zero before another digit, and a point or an exponent is followed by
digits.
-/

/-- That all of several characters are digits, and that there are some. -/
structure Digits (chars : List Char) : Prop where
  ne_nil : chars ≠ []
  all : ∀ char ∈ chars, (digit? char).isSome

variable
    {chars rest : List Char}

theorem Digits.zero : Digits ['0'] :=
  ⟨List.cons_ne_nil _ _, List.forall_mem_singleton.mpr rfl⟩

theorem takeDigits_digits
    (all : ∀ char ∈ chars, (digit? char).isSome)
    (stops : takeDigits rest = ([], rest)) :
    takeDigits (chars ++ rest) = (chars.filterMap digit?, rest) := by
  induction chars with
  | nil => exact stops
  | cons char chars inductionHypothesis =>
      obtain ⟨digit, isDigit⟩ :=
        Option.isSome_iff_exists.mp (all char List.mem_cons_self)
      rw [List.cons_append, takeDigits, isDigit,
        inductionHypothesis fun other member => all other (List.mem_cons_of_mem _ member)]
      simp [isDigit]

theorem Digits.filterMap_ne_nil
    (digits : Digits chars) :
    chars.filterMap digit? ≠ [] := by
  cases chars with
  | nil => exact (digits.ne_nil rfl).elim
  | cons char others =>
      obtain ⟨digit, isDigit⟩ :=
        Option.isSome_iff_exists.mp (digits.all char List.mem_cons_self)
      simp [isDigit]

/-- A whole part: one digit, or several of which the first is not zero. -/
structure WholePart (chars : List Char) : Prop where
  digits : Digits chars
  unpadded : chars.length = 1 ∨ chars.head? ≠ some '0'

/-- Nothing, or a point and digits. -/
def FractionPart (chars : List Char) : Prop :=
  chars = [] ∨ ∃ digits, Digits digits ∧ chars = '.' :: digits

/-- Nothing, or the mark of an exponent with its sign and digits. -/
def ExponentPart (chars : List Char) : Prop :=
  chars = [] ∨ ∃ sign digits, (sign = '+' ∨ sign = '-') ∧ Digits digits ∧
    chars = 'e' :: sign :: digits

theorem ExponentPart.takeDigits_eq
    (exponent : ExponentPart chars) :
    takeDigits chars = ([], chars) := by
  rcases exponent with rfl | ⟨sign, digits, -, -, rfl⟩ <;> rfl

theorem FractionPart.takeDigits_append
    (fraction : FractionPart chars)
    (exponent : ExponentPart rest) :
    takeDigits (chars ++ rest) = ([], chars ++ rest) := by
  rcases fraction with rfl | ⟨digits, -, rfl⟩
  · exact exponent.takeDigits_eq
  · rfl

theorem eq_zero_of_digit?
    {char : Char}
    (isZero : digit? char = some 0) :
    char = '0' := by
  rw [digit?] at isZero
  split at isZero
  · rename_i inRange
    have zeroLe : '0'.toNat ≤ char.toNat := inRange.1
    have same : char.toNat - '0'.toNat = 0 := Option.some.inj isZero
    exact Char.toNat_inj.mp (by omega)
  · cases isZero

theorem WholePart.scanWhole_eq
    (whole : WholePart chars)
    (stops : takeDigits rest = ([], rest))
    (offset : Nat) :
    scanWhole offset (chars ++ rest) = .ok (chars.filterMap digit?, rest) := by
  have notEmpty := whole.digits.filterMap_ne_nil
  rw [scanWhole, takeDigits_digits whole.digits.all stops]
  split
  · rename_i same
    exact (notEmpty (Prod.mk.inj same).1).elim
  · rename_i second others _ same
    obtain ⟨padded, -⟩ := Prod.mk.inj same
    obtain ⟨⟨-, all⟩, unpadded⟩ := whole
    cases chars with
    | nil => cases padded
    | cons char chars =>
        obtain ⟨digit, isDigit⟩ :=
          Option.isSome_iff_exists.mp (all char List.mem_cons_self)
        rw [List.filterMap_cons_some isDigit] at padded
        obtain ⟨rfl, othersEq⟩ := List.cons.inj padded
        rcases unpadded with single | notZero
        · obtain rfl : chars = [] := by simpa using single
          cases othersEq
        · exact (notZero (congrArg some (eq_zero_of_digit? isDigit))).elim
  · rfl

/-- A whole part, a fraction and an exponent make a literal, with a sign or without. -/
theorem isNumeral_of_parts
    {sign whole fraction exponent : List Char}
    (isSign : sign = [] ∨ sign = ['-'])
    (wholePart : WholePart whole)
    (fractionPart : FractionPart fraction)
    (exponentPart : ExponentPart exponent) :
    IsNumeral (sign ++ (whole ++ (fraction ++ exponent))) := by
  have signless : (splitSign (sign ++ (whole ++ (fraction ++ exponent)))).2 =
      whole ++ (fraction ++ exponent) := by
    rcases isSign with rfl | rfl
    · rw [List.nil_append, splitSign]
      intro others startsWith
      obtain ⟨⟨notEmpty, all⟩, -⟩ := wholePart
      cases whole with
      | nil => exact notEmpty rfl
      | cons char chars =>
          obtain ⟨rfl, -⟩ := List.cons.inj startsWith
          exact absurd (all '-' List.mem_cons_self) (by decide)
    · rfl
  rw [IsNumeral]
  simp only [scanNumeral_eq, signless, bind, Except.bind,
    wholePart.scanWhole_eq (fractionPart.takeDigits_append exponentPart)]
  have scansExponent (offset : Nat) : ∃ parts start,
      scanExponent offset exponent = .ok (parts, start, []) := by
    rcases exponentPart with rfl | ⟨mark, digits, isMark, areDigits, rfl⟩
    · exact ⟨none, offset, rfl⟩
    · have taken : takeDigits (digits ++ []) = (digits.filterMap digit?, []) :=
        takeDigits_digits areDigits.all rfl
      rw [List.append_nil] at taken
      have notEmpty := areDigits.filterMap_ne_nil
      rw [scanExponent, if_pos (.inl rfl)]
      have signEq : ∃ negative,
          exponentSign (mark :: digits) = (negative, 1, digits) := by
        rcases isMark with rfl | rfl <;> exact ⟨_, rfl⟩
      obtain ⟨negative, signEq⟩ := signEq
      simp only [signEq, taken]
      generalize digits.filterMap digit? = values at notEmpty
      cases values with
      | nil => exact (notEmpty rfl).elim
      | cons => exact ⟨_, _, rfl⟩
  have scansFraction (offset : Nat) : ∃ parts,
      scanFraction offset (fraction ++ exponent) = .ok (parts, exponent) := by
    rcases fractionPart with rfl | ⟨digits, areDigits, rfl⟩
    · refine ⟨none, ?_⟩
      rcases exponentPart with rfl | ⟨mark, digits, -, -, rfl⟩ <;> rfl
    · have taken := takeDigits_digits areDigits.all exponentPart.takeDigits_eq
      have notEmpty := areDigits.filterMap_ne_nil
      rw [List.cons_append, scanFraction, taken]
      generalize digits.filterMap digit? = values at notEmpty
      cases values with
      | nil => exact (notEmpty rfl).elim
      | cons => exact ⟨_, rfl⟩
  choose fractions fractionEq using scansFraction
  choose exponents starts exponentEq using scansExponent
  simp only [fractionEq, exponentEq]
  exact ⟨_, rfl⟩

/-! ## Decimal digits -/

theorem digits_toDigits (value : Nat) : Digits (Nat.toDigits 10 value) := by
  refine ⟨Nat.toDigits_ne_nil, ?_⟩
  intro char member
  have isDigit := Nat.isDigit_of_mem_toDigits (by decide) (by decide) member
  rw [Char.isDigit, Bool.and_eq_true, decide_eq_true_iff, decide_eq_true_iff] at isDigit
  rw [digit?, if_pos ⟨isDigit.1, isDigit.2⟩]
  rfl

/-- Only zero starts with a zero. -/
theorem head?_toDigits_ne_zero
    {value : Nat}
    (notZero : value ≠ 0) :
    (Nat.toDigits 10 value).head? ≠ some '0' := by
  induction value using Nat.strongRecOn with
  | ind value inductionHypothesis =>
      rw [Nat.toDigits_eq_if (by decide)]
      split
      · rename_i small
        have single : ∀ digit < 10, digit ≠ 0 →
            some (Nat.digitChar digit) ≠ some '0' := by
          decide
        exact single value small notZero
      · rename_i large
        have first := inductionHypothesis (value / 10) (by omega) (by omega)
        obtain ⟨char, others, split⟩ :=
          List.exists_cons_of_ne_nil (Nat.toDigits_ne_nil (n := value / 10) (b := 10))
        rw [split] at first ⊢
        exact first

theorem wholePart_toDigits (value : Nat) : WholePart (Nat.toDigits 10 value) := by
  refine ⟨digits_toDigits value, ?_⟩
  by_cases isZero : value = 0
  · subst isZero
    exact .inl rfl
  · exact .inr (head?_toDigits_ne_zero isZero)

theorem toList_toString_nat (value : Nat) :
    (toString value).toList = Nat.toDigits 10 value := by
  rw [Nat.toString_eq_ofList_toDigits, String.toList_ofList]

/-- What an integer is written as is a literal. -/
theorem isNumeral_integer (value : Int) : IsNumeral (toString value).toList := by
  have plain (value : Nat) :
      IsNumeral (Nat.toDigits 10 value) := by
    have parts := isNumeral_of_parts (.inl rfl) (wholePart_toDigits value) (.inl rfl)
      (.inl rfl)
    simpa using parts
  have signed (value : Nat) :
      IsNumeral ('-' :: Nat.toDigits 10 value) := by
    have parts := isNumeral_of_parts (.inr rfl) (wholePart_toDigits value) (.inl rfl)
      (.inl rfl)
    simpa using parts
  cases value with
  | ofNat value =>
      rw [show toString (Int.ofNat value) = toString value from rfl,
        toList_toString_nat]
      exact plain value
  | negSucc value =>
      rw [show toString (Int.negSucc value) = "-" ++ toString (value + 1) from rfl,
        String.toList_append, toList_toString_nat]
      exact signed (value + 1)

/-! ## Finite numbers -/

theorem ofDecimal_zero
    (negative : Bool)
    (exponent : Int) :
    Binary64.ofDecimal negative 0 exponent = some (.zero negative) := by
  rw [Binary64.ofDecimal]
  split <;> simp [Binary64.round]

/-- A decimal that reads back as a number other than zero is not zero. -/
theorem digits_ne_zero_of_readsAs
    {decimal : Decimal}
    {number : Binary64}
    (notZero : number.isZero = false)
    (readsAs : decimal.readsAs number = true) :
    decimal.digits ≠ 0 := by
  intro isZero
  rw [Decimal.readsAs, isZero, ofDecimal_zero] at readsAs
  have same : Binary64.zero number.negative = number :=
    Option.some.inj (beq_iff_eq.mp readsAs)
  rw [← same] at notZero
  cases notZero

theorem digits_ne_zero_of_atExponent?
    {number : Binary64}
    {exponent : Int}
    {decimal : Decimal}
    (notZero : number.isZero = false)
    (found : Decimal.atExponent? number exponent = some decimal) :
    decimal.digits ≠ 0 := by
  rw [Decimal.atExponent?] at found
  generalize Decimal.floorAt number.fraction.1 number.fraction.2 exponent = below
    at found
  have lower (readsAs : (⟨below, exponent⟩ : Decimal).readsAs number = true) :
      below ≠ 0 :=
    digits_ne_zero_of_readsAs notZero readsAs
  have upper : below + 1 ≠ 0 := Nat.succ_ne_zero below
  split at found
  · cases found
  · rename_i readsAs _
    cases found
    exact lower readsAs
  · cases found
    exact upper
  · rename_i readsAs _
    split at found
    · cases found
      exact lower readsAs
    · cases found
      exact upper
    · split at found
      · cases found
        exact lower readsAs
      · cases found
        exact upper

theorem digits_ne_zero_of_searchDown
    {number : Binary64}
    {decimal : Decimal}
    (notZero : number.isZero = false)
    (steps : Nat)
    (exponent : Int)
    (found : Decimal.searchDown number steps exponent = some decimal) :
    decimal.digits ≠ 0 := by
  induction steps generalizing exponent with
  | zero => cases found
  | succ steps inductionHypothesis =>
      rw [Decimal.searchDown] at found
      split at found
      · rename_i foundHere
        cases found
        exact digits_ne_zero_of_atExponent? notZero foundHere
      · exact inductionHypothesis _ found

theorem digits_stripZeros_ne_zero
    (bound digits : Nat)
    (exponent : Int)
    (notZero : digits ≠ 0) :
    (Decimal.stripZeros bound digits exponent).digits ≠ 0 := by
  induction bound generalizing digits exponent with
  | zero => exact notZero
  | succ bound inductionHypothesis =>
      rw [Decimal.stripZeros]
      split
      · exact inductionHypothesis _ _ (by omega)
      · exact notZero

/-- The shortest decimal of a number other than zero is not zero, or has no exponent. -/
theorem digits_shortest
    {number : Binary64}
    (notZero : number.isZero = false) :
    (Decimal.shortest number).digits ≠ 0 ∨
      (Decimal.shortest number).exponent = 0 := by
  -- The numbers of steps are made variables, or the search would be unrolled.
  delta Decimal.shortest
  generalize 22 = steps
  generalize 400 = bound
  simp only
  split
  · rename_i decimal found
    have foundNotZero := digits_ne_zero_of_searchDown notZero _ _ found
    exact .inl (digits_stripZeros_ne_zero bound _ decimal.exponent foundNotZero)
  · exact .inr rfl

/-! ## Laid out numbers -/

theorem Digits.append
    {others : List Char}
    (digits : Digits chars)
    (all : ∀ char ∈ others, (digit? char).isSome) :
    Digits (chars ++ others) := by
  refine ⟨List.append_ne_nil_of_left_ne_nil digits.ne_nil _, ?_⟩
  intro char member
  rcases List.mem_append.mp member with isFirst | isOther
  · exact digits.all char isFirst
  · exact all char isOther

theorem isSome_digit?_replicate
    (count : Nat) :
    ∀ char ∈ List.replicate count '0', (digit? char).isSome := by
  intro char member
  rw [List.eq_of_mem_replicate member]
  decide

theorem exponentPart_exponentText
    (layout : Layout)
    (power : Int) :
    ExponentPart (layout.exponentText power) := by
  refine .inr ⟨_, _, ?_, ?_, rfl⟩
  · split
    · exact .inr rfl
    · exact .inl rfl
  · rw [Layout.paddedDigits, toList_toString_nat]
    have digits := digits_toDigits power.natAbs
    refine ⟨List.append_ne_nil_of_right_ne_nil _ digits.ne_nil, ?_⟩
    intro char member
    rcases List.mem_append.mp member with isZero | isDigit
    · exact isSome_digit?_replicate _ char isZero
    · exact digits.all char isDigit

/-- Digits with a point among or behind them are a whole part and a fraction. -/
theorem exists_parts_of_pointAfter
    {digits : List Char}
    (whole : WholePart digits)
    (count : Nat)
    (unpadded : digits.head? ≠ some '0' ∨ count = 0) :
    ∃ first fraction, WholePart first ∧ FractionPart fraction ∧
      Layout.pointAfter (count + 1) digits = first ++ fraction := by
  rw [Layout.pointAfter]
  generalize paddedEq : digits ++ List.replicate (count + 1 - digits.length) '0' =
    padded
  have paddedDigits : Digits padded :=
    paddedEq ▸ whole.digits.append (isSome_digit?_replicate _)
  have headEq : padded.head? = digits.head? := by
    obtain ⟨char, others, rfl⟩ := List.exists_cons_of_ne_nil whole.digits.ne_nil
    rw [← paddedEq]
    rfl
  refine ⟨_, _, ?_, .inr ⟨_, ?_, rfl⟩, rfl⟩
  · refine ⟨⟨?_, ?_⟩, ?_⟩
    · obtain ⟨char, others, rfl⟩ := List.exists_cons_of_ne_nil paddedDigits.ne_nil
      exact List.cons_ne_nil _ _
    · exact fun char member => paddedDigits.all char (List.mem_of_mem_take member)
    · rcases unpadded with notZero | rfl
      · rw [List.head?_take]
        simpa [headEq] using Or.inr notZero
      · obtain ⟨char, others, rfl⟩ := List.exists_cons_of_ne_nil paddedDigits.ne_nil
        exact .inl rfl
  · split
    · exact .zero
    · rename_i notEmpty
      refine ⟨by simpa using notEmpty, ?_⟩
      exact fun char member => paddedDigits.all char (List.mem_of_mem_drop member)

/-- A decimal that is laid out is a whole part, a fraction and an exponent. -/
theorem exists_parts_of_magnitudeText
    (layout : Layout)
    {decimal : Decimal}
    (notZero : decimal.digits ≠ 0 ∨ decimal.exponent = 0) :
    ∃ whole fraction exponent, WholePart whole ∧ FractionPart fraction ∧
      ExponentPart exponent ∧
        layout.magnitudeText decimal = whole ++ (fraction ++ exponent) := by
  have digits := digits_toDigits decimal.digits
  have whole := wholePart_toDigits decimal.digits
  rw [Layout.magnitudeText, toList_toString_nat]
  simp only
  split
  · have exponent := exponentPart_exponentText layout
      (decimal.exponent + (Nat.toDigits 10 decimal.digits).length - 1)
    generalize Nat.toDigits 10 decimal.digits = chars at digits whole exponent ⊢
    have single {char : Char} (isDigit : (digit? char).isSome) : WholePart [char] :=
      ⟨⟨List.cons_ne_nil _ _, by simpa using isDigit⟩, .inl rfl⟩
    cases chars with
    | nil => exact (digits.ne_nil rfl).elim
    | cons first others =>
        have firstWhole := single (digits.all first List.mem_cons_self)
        cases others with
        | nil =>
            exact ⟨[first], [], _, firstWhole, .inl rfl, exponent, rfl⟩
        | cons second others =>
            refine ⟨[first], _, _, firstWhole, .inr ⟨_, ?_, rfl⟩, exponent, rfl⟩
            exact ⟨List.cons_ne_nil _ _, fun char member =>
              digits.all char (List.mem_cons_of_mem _ member)⟩
  · split
    · refine ⟨['0'], _, [], ⟨.zero, .inl rfl⟩,
        .inr ⟨_, ?_, rfl⟩, .inl rfl, by rw [List.append_nil]; rfl⟩
      refine ⟨List.append_ne_nil_of_right_ne_nil _ digits.ne_nil, ?_⟩
      intro char member
      rcases List.mem_append.mp member with isZero | isDigit
      · exact isSome_digit?_replicate _ char isZero
      · exact digits.all char isDigit
    · have unpadded : (Nat.toDigits 10 decimal.digits).head? ≠ some '0' ∨
          (decimal.exponent + (Nat.toDigits 10 decimal.digits).length - 1).natAbs =
            0 := by
        by_cases isZero : decimal.digits = 0
        · rcases notZero with notZero | noExponent
          · exact (notZero isZero).elim
          · rw [isZero, noExponent]
            exact .inr rfl
        · exact .inl (head?_toDigits_ne_zero isZero)
      obtain ⟨first, fraction, firstPart, fractionPart, split⟩ :=
        exists_parts_of_pointAfter whole _ unpadded
      refine ⟨first, fraction, [], firstPart, fractionPart, .inl rfl, ?_⟩
      rw [split, List.append_nil]

/-- What a finite number is written as is a literal. -/
theorem isNumeral_format
    (layout : Layout)
    (number : Binary64) :
    IsNumeral (layout.format number).toList := by
  have magnitude : ∃ whole fraction exponent, WholePart whole ∧
      FractionPart fraction ∧ ExponentPart exponent ∧
        (if number.isZero then ['0', '.', '0']
          else layout.magnitudeText (Decimal.shortest number)) =
          whole ++ (fraction ++ exponent) := by
    cases isZero : number.isZero with
    | true =>
        exact ⟨['0'], ['.', '0'], [], ⟨.zero, .inl rfl⟩, .inr ⟨['0'], .zero, rfl⟩,
          .inl rfl, rfl⟩
    | false =>
        exact exists_parts_of_magnitudeText layout (digits_shortest isZero)
  obtain ⟨whole, fraction, exponent, wholePart, fractionPart, exponentPart, split⟩ :=
    magnitude
  rw [Layout.format, String.toList_ofList, split]
  cases number.negative with
  | true =>
      exact isNumeral_of_parts (.inr rfl) wholePart fractionPart exponentPart
  | false =>
      exact isNumeral_of_parts (.inl rfl) wholePart fractionPart exponentPart

end ApiTree.Json
