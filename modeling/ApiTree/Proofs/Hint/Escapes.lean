import ApiTree.Hint.Constant
import ApiTree.Proofs.Json.Quoting
import Mathlib.Data.Nat.Digits.Defs

namespace ApiTree.Hint

open ApiTree.Json (Escaped Fault ScansAs hexDigit? isLeadingSurrogate
  isTrailingSurrogate keptText? pairedChar readHex readTrailing scanQuote)
open ApiTree.Text (hexDigits paddedHex)

/-!
# Escapes of written strings

A written string is a literal with complete escapes, whatever code points it holds.
If they are those of characters, these characters are read back from it: a character
beyond the first plane is written as a pair of halves, and the pair is put together
again.
-/

/-! ## Hexadecimal digits -/

theorem hexDigit?_digitChar :
    ∀ digit < 16, hexDigit? (Nat.digitChar digit) = some digit := by
  decide

theorem isSome_hexDigit?_of_mem
    {value : Nat}
    {char : Char}
    (member : char ∈ hexDigits value) :
    (hexDigit? char).isSome := by
  induction value using Nat.strongRecOn with
  | ind value inductionHypothesis =>
      have last : (hexDigit? (Nat.digitChar (value % 16))).isSome := by
        rw [hexDigit?_digitChar _ (Nat.mod_lt _ (by decide))]
        rfl
      rw [hexDigits, Nat.toDigits_eq_if (by decide)] at member
      split at member
      · rename_i small
        rw [Nat.mod_eq_of_lt small] at last
        rw [List.mem_singleton.mp member]
        exact last
      · rcases List.mem_append.mp member with inFront | isLast
        · exact inductionHypothesis (value / 16) (by omega) inFront
        · rw [List.mem_singleton.mp isLast]
          exact last

theorem isSome_hexDigit?_of_mem_paddedHex
    {width value : Nat}
    {char : Char}
    (member : char ∈ paddedHex width value) :
    (hexDigit? char).isSome := by
  rcases List.mem_append.mp member with isZero | isDigit
  · rw [List.eq_of_mem_replicate isZero]
    decide
  · exact isSome_hexDigit?_of_mem isDigit

/-- A hexadecimal digit stands for itself in a literal. -/
theorem plain_of_hexDigit?
    {char : Char}
    (isDigit : (hexDigit? char).isSome) :
    char ≠ '"' ∧ char ≠ '\\' ∧ ¬ char < ' ' := by
  refine ⟨?_, ?_, ?_⟩
  · rintro rfl
    exact absurd isDigit (by decide)
  · rintro rfl
    exact absurd isDigit (by decide)
  · intro isControl
    have below {first : Char} (space : ' '.toNat < first.toNat) : ¬ first ≤ char :=
      fun le => Nat.lt_irrefl _
        (Nat.lt_trans (Nat.lt_of_lt_of_le space le) isControl)
    rw [hexDigit?, if_neg fun range => below (by decide) range.1,
      if_neg fun range => below (by decide) range.1,
      if_neg fun range => below (by decide) range.1] at isDigit
    cases isDigit

/-- The four digits of a unit. -/
theorem paddedHex_of_lt
    {code : Nat}
    (isUnit : code < 0x10000) :
    paddedHex 4 code =
      [Nat.digitChar (code / 0x1000), Nat.digitChar (code / 0x100 % 16),
        Nat.digitChar (code / 16 % 16), Nat.digitChar (code % 16)] := by
  have more (value : Nat) (large : 16 ≤ value) :
      Nat.toDigits 16 value =
        Nat.toDigits 16 (value / 16) ++ [Nat.digitChar (value % 16)] :=
    Nat.toDigits_of_base_le (by decide) large
  have one (value : Nat) (small : value < 16) :
      Nat.toDigits 16 value = [Nat.digitChar value] :=
    Nat.toDigits_of_lt_base small
  have zero {value : Nat} (isZero : value = 0) : Nat.digitChar value = '0' :=
    isZero ▸ rfl
  have small {value : Nat} (isSmall : value < 16) :
      Nat.digitChar (value % 16) = Nat.digitChar value := by
    rw [Nat.mod_eq_of_lt isSmall]
  rw [paddedHex, hexDigits]
  by_cases first : code < 16
  · rw [one code first, zero (by omega : code / 0x1000 = 0),
      zero (by omega : code / 0x100 % 16 = 0), zero (by omega : code / 16 % 16 = 0),
      small first]
    rfl
  · have firstLast := more code (by omega)
    by_cases second : code < 0x100
    · rw [firstLast, one (code / 16) (by omega), zero (by omega : code / 0x1000 = 0),
        zero (by omega : code / 0x100 % 16 = 0), small (by omega : code / 16 < 16)]
      rfl
    · have secondLast := more (code / 16) (by omega)
      rw [Nat.div_div_eq_div_mul] at secondLast
      by_cases third : code < 0x1000
      · rw [firstLast, secondLast, one (code / (16 * 16)) (by omega),
          zero (by omega : code / 0x1000 = 0), small (by omega : code / 0x100 < 16)]
        rfl
      · have thirdLast := more (code / (16 * 16)) (by omega)
        rw [Nat.div_div_eq_div_mul] at thirdLast
        rw [firstLast, secondLast, thirdLast,
          one (code / (16 * 16 * 16)) (by omega)]
        rfl

/-- A unit is read back from its escape. -/
theorem readHex_unit
    {code : Nat}
    (isUnit : code < 0x10000)
    (offset : Nat)
    (rest : List Char) :
    readHex offset (paddedHex 4 code ++ rest) = .ok (code, rest) := by
  have digit {value : Nat} (small : value < 16) := hexDigit?_digitChar value small
  have read := Json.readHex_digits (digit (by omega : code / 0x1000 < 16))
    (digit (Nat.mod_lt (code / 0x100) (by decide)))
    (digit (Nat.mod_lt (code / 16) (by decide)))
    (digit (Nat.mod_lt code (by decide))) offset rest
  have whole : ((code / 0x1000 * 16 + code / 0x100 % 16) * 16 + code / 16 % 16) * 16 +
      code % 16 = code := by
    omega
  rw [whole] at read
  rw [paddedHex_of_lt isUnit]
  exact read

/-! ## Complete escapes -/

theorem escaped_unitEscape
    {rest : List Char}
    (code : Nat)
    (escaped : Escaped rest) :
    Escaped (unitEscape code ++ rest) := by
  have digits : ∀ char ∈ paddedHex 4 code, (hexDigit? char).isSome :=
    fun char member => isSome_hexDigit?_of_mem_paddedHex member
  have enough : 4 ≤ (paddedHex 4 code).length := by
    rw [paddedHex, List.length_append, List.length_replicate]
    omega
  have plain {chars : List Char} (all : ∀ char ∈ chars, (hexDigit? char).isSome) :
      Escaped (chars ++ rest) := by
    induction chars with
    | nil => exact escaped
    | cons char chars inductionHypothesis =>
        obtain ⟨notQuote, notBackslash, notControl⟩ :=
          plain_of_hexDigit? (all char List.mem_cons_self)
        exact .plain notQuote notBackslash notControl
          (inductionHypothesis fun other member =>
            all other (List.mem_cons_of_mem _ member))
  rw [unitEscape]
  generalize paddedHex 4 code = chars at digits enough
  match chars with
  | first :: second :: third :: fourth :: others =>
      obtain ⟨a, isFirst⟩ := Option.isSome_iff_exists.mp (digits first (by simp))
      obtain ⟨b, isSecond⟩ := Option.isSome_iff_exists.mp (digits second (by simp))
      obtain ⟨c, isThird⟩ := Option.isSome_iff_exists.mp (digits third (by simp))
      obtain ⟨d, isFourth⟩ := Option.isSome_iff_exists.mp (digits fourth (by simp))
      exact .unit isFirst isSecond isThird isFourth (plain fun char member =>
        digits char (by simp [member]))

theorem plain_ofNat :
    ∀ point < 0x7F, 0x20 ≤ point ∧ point ≠ 0x22 ∧ point ≠ 0x5C →
      Char.ofNat point ≠ '"' ∧ Char.ofNat point ≠ '\\' ∧
        ¬ Char.ofNat point < ' ' := by
  decide

/-- How a code point is written. -/
inductive WrittenPoint (point : Nat) : List Char → Prop where
  | letter
      {letter : Char}
      (stands : Json.simpleEscape? letter = some (Char.ofNat point)) :
      WrittenPoint point ['\\', letter]
  | plain
      (notQuote : Char.ofNat point ≠ '"')
      (notBackslash : Char.ofNat point ≠ '\\')
      (notControl : ¬ Char.ofNat point < ' ') :
      WrittenPoint point [Char.ofNat point]
  | unit
      (isUnit : point < 0x10000) :
      WrittenPoint point (unitEscape point)
  | pair
      (beyond : 0x10000 ≤ point) :
      WrittenPoint point
        (unitEscape (0xD800 + (point - 0x10000) / 0x400) ++
          unitEscape (0xDC00 + (point - 0x10000) % 0x400))

theorem writtenPoint (point : Nat) : WrittenPoint point (writePoint point) := by
  rw [writePoint]
  repeat' split
  all_goals try
    rename_i same
    obtain rfl := same
    exact .letter rfl
  · rename_i notQuote notBackslash _ _ _ _ _ isPlain
    obtain ⟨otherThanQuote, otherThanBackslash, notControl⟩ :=
      plain_ofNat point isPlain.2 ⟨isPlain.1, notQuote, notBackslash⟩
    exact .plain otherThanQuote otherThanBackslash notControl
  · rename_i isUnit
    exact .unit isUnit
  · rename_i beyond
    exact .pair (Nat.le_of_not_lt beyond)

/-- Whatever a code point is written as, its escapes are complete. -/
theorem escaped_writePoint
    {rest : List Char}
    (point : Nat)
    (escaped : Escaped rest) :
    Escaped (writePoint point ++ rest) := by
  have written := writtenPoint point
  generalize writePoint point = chars at written ⊢
  cases written with
  | letter stands => exact .letter stands escaped
  | plain notQuote notBackslash notControl =>
      exact .plain notQuote notBackslash notControl escaped
  | unit isUnit => exact escaped_unitEscape _ escaped
  | pair beyond =>
      rw [List.append_assoc]
      exact escaped_unitEscape _ (escaped_unitEscape _ escaped)

theorem escaped_points (points : List Nat) :
    Escaped (points.flatMap writePoint) := by
  induction points with
  | nil => exact .nil
  | cons point points inductionHypothesis =>
      rw [List.flatMap_cons]
      exact escaped_writePoint point inductionHypothesis

/-! ## Characters that are read back -/

theorem toNat_lt (char : Char) : char.toNat < 0x110000 := by
  rcases char.valid with low | high
  · exact Nat.lt_trans low (by decide)
  · exact high.2

/-- No character is half of a pair. -/
theorem not_surrogate (char : Char) :
    ¬ (0xD800 ≤ char.toNat ∧ char.toNat ≤ 0xDFFF) := by
  rintro ⟨above, below⟩
  rcases char.valid with low | high
  · have lower : char.toNat < 0xD800 := low
    omega
  · have higher : 0xDFFF < char.toNat := high.1
    omega

theorem scanQuote_unitEscape
    {code : Nat}
    (isUnit : code < 0x10000)
    (offset : Nat)
    (taken rest : List Char)
    (earlier : Option Fault) :
    scanQuote offset taken earlier (unitEscape code ++ rest) =
      if isTrailingSurrogate code then
        scanQuote (offset + 6) taken
          (earlier <|> some ⟨.loneSurrogate, offset + 6⟩) rest
      else if isLeadingSurrogate code then
        match readTrailing (offset + 6) rest with
        | .ok (trailing, afterPair) =>
            scanQuote (offset + 12) (pairedChar code trailing :: taken) earlier
              afterPair
        | .error fault =>
            scanQuote (offset + 6) taken (earlier <|> some fault) rest
      else
        scanQuote (offset + 6) (Char.ofNat code :: taken) earlier rest :=
  Json.scanQuote_unit fun start => readHex_unit isUnit start rest

theorem readTrailing_unitEscape
    {code : Nat}
    (isUnit : code < 0x10000)
    (isTrailing : isTrailingSurrogate code = true)
    (offset : Nat)
    (rest : List Char) :
    readTrailing offset (unitEscape code ++ rest) = .ok (code, rest) := by
  rw [unitEscape, List.cons_append, List.cons_append, readTrailing,
    readHex_unit isUnit]
  exact if_pos isTrailing

/-- The two halves that a character beyond the first plane is written as. -/
theorem scanQuote_pair
    {char : Char}
    (beyond : 0x10000 ≤ char.toNat)
    (offset : Nat)
    (taken rest : List Char)
    (earlier : Option Fault) :
    scanQuote offset taken earlier
        (unitEscape (0xD800 + (char.toNat - 0x10000) / 0x400) ++
          (unitEscape (0xDC00 + (char.toNat - 0x10000) % 0x400) ++ rest)) =
      scanQuote (offset + 12) (char :: taken) earlier rest := by
  have limit := toNat_lt char
  have isTrailing :
      isTrailingSurrogate (0xDC00 + (char.toNat - 0x10000) % 0x400) = true := by
    simp only [isTrailingSurrogate, Bool.and_eq_true, decide_eq_true_eq]
    omega
  have together : pairedChar (0xD800 + (char.toNat - 0x10000) / 0x400)
      (0xDC00 + (char.toNat - 0x10000) % 0x400) = char := by
    rw [pairedChar]
    have whole : (0xD800 + (char.toNat - 0x10000) / 0x400 - 0xD800) * 0x400 +
        (0xDC00 + (char.toNat - 0x10000) % 0x400 - 0xDC00) + 0x10000 =
          char.toNat := by
      omega
    rw [whole, Char.ofNat_toNat]
  rw [scanQuote_unitEscape (by omega), if_neg, if_pos,
    readTrailing_unitEscape (by omega) isTrailing]
  · simp only [together]
  · simp only [isLeadingSurrogate, Bool.and_eq_true, decide_eq_true_eq]
    omega
  · simp only [isTrailingSurrogate, Bool.and_eq_true, decide_eq_true_eq]
    omega

/-- What a character is written as stands for that character. -/
theorem exists_scanQuote_writePoint
    (char : Char)
    (offset : Nat)
    (taken rest : List Char)
    (earlier : Option Fault) :
    ∃ next, scanQuote offset taken earlier (writePoint char.toNat ++ rest) =
      scanQuote next (char :: taken) earlier rest := by
  have isChar := Char.ofNat_toNat char
  have written := writtenPoint char.toNat
  generalize writePoint char.toNat = chars at written ⊢
  cases written with
  | letter stands =>
      rw [isChar] at stands
      exact ⟨_, Json.scanQuote_letter stands⟩
  | plain notQuote notBackslash notControl =>
      rw [isChar] at notQuote notBackslash notControl ⊢
      exact ⟨_, Json.scanQuote_plain notQuote notBackslash notControl⟩
  | unit isUnit =>
      have notHalf := not_surrogate char
      refine ⟨offset + 6, ?_⟩
      rw [scanQuote_unitEscape isUnit, if_neg, if_neg, isChar]
      · simp only [isLeadingSurrogate, Bool.and_eq_true, decide_eq_true_eq]
        omega
      · simp only [isTrailingSurrogate, Bool.and_eq_true, decide_eq_true_eq]
        omega
  | pair beyond =>
      refine ⟨offset + 12, ?_⟩
      rw [List.append_assoc]
      exact scanQuote_pair beyond offset taken rest earlier

/-- The characters of a written text are kept. -/
theorem scansAs_chars (chars : List Char) :
    ScansAs ((chars.map Char.toNat).flatMap writePoint) (some chars) := by
  induction chars with
  | nil => exact .nil
  | cons char chars inductionHypothesis =>
      refine inductionHypothesis.cons char ?_
      intro offset taken earlier rest
      rw [List.map_cons, List.flatMap_cons, List.append_assoc]
      exact exists_scanQuote_writePoint char offset taken _ earlier

/-- A written text is read back. -/
theorem keptText?_pointsOf (text : String) :
    keptText? ((pointsOf text).flatMap writePoint) = some text := by
  have kept := (scansAs_chars text.toList).keptText?_eq
  rw [Option.map_some, String.ofList_toList] at kept
  exact kept

end ApiTree.Hint
