import ApiTree.Json.Quote

namespace ApiTree.Json

/-!
# Complete string literals

A literal whose escapes are complete is scanned up to its closing quote wherever it
stands.  What a reader keeps of it depends on neither its place nor what follows it;
nothing is kept of a literal with half a surrogate pair.
-/

/-- Text between the quotes of a literal whose escapes are complete. -/
inductive Escaped : List Char → Prop where
  | nil : Escaped []
  | plain
      {char : Char}
      {rest : List Char}
      (notQuote : char ≠ '"')
      (notBackslash : char ≠ '\\')
      (notControl : ¬ char < ' ')
      (others : Escaped rest) :
      Escaped (char :: rest)
  | letter
      {letter char : Char}
      {rest : List Char}
      (stands : simpleEscape? letter = some char)
      (others : Escaped rest) :
      Escaped ('\\' :: letter :: rest)
  | unit
      {first second third fourth : Char}
      {a b c d : Nat}
      {rest : List Char}
      (firstDigit : hexDigit? first = some a)
      (secondDigit : hexDigit? second = some b)
      (thirdDigit : hexDigit? third = some c)
      (fourthDigit : hexDigit? fourth = some d)
      (others : Escaped rest) :
      Escaped ('\\' :: 'u' :: first :: second :: third :: fourth :: rest)

/-! ## One step of a scan -/

variable
    {offset : Nat}
    {taken rest : List Char}
    {earlier : Option Fault}

theorem readHex_digits
    {first second third fourth : Char}
    {a b c d : Nat}
    (firstDigit : hexDigit? first = some a)
    (secondDigit : hexDigit? second = some b)
    (thirdDigit : hexDigit? third = some c)
    (fourthDigit : hexDigit? fourth = some d)
    (offset : Nat)
    (rest : List Char) :
    readHex offset (first :: second :: third :: fourth :: rest) =
      .ok (((a * 16 + b) * 16 + c) * 16 + d, rest) := by
  simp only [readHex, firstDigit, secondDigit, thirdDigit, fourthDigit]

theorem scanQuote_plain
    {char : Char}
    (notQuote : char ≠ '"')
    (notBackslash : char ≠ '\\')
    (notControl : ¬ char < ' ') :
    scanQuote offset taken earlier (char :: rest) =
      scanQuote (offset + char.utf8Size) (char :: taken) earlier rest := by
  rw [scanQuote, if_neg notControl] <;> simp [notQuote, notBackslash]

theorem ne_u_of_simpleEscape?
    {letter char : Char}
    (stands : simpleEscape? letter = some char) :
    letter ≠ 'u' := by
  rintro rfl
  simp [simpleEscape?] at stands

theorem scanQuote_letter
    {letter char : Char}
    (stands : simpleEscape? letter = some char) :
    scanQuote offset taken earlier ('\\' :: letter :: rest) =
      scanQuote (offset + 2) (char :: taken) earlier rest := by
  rw [scanQuote, stands]
  exact ne_u_of_simpleEscape? stands

theorem scanQuote_close :
    scanQuote offset taken earlier ('"' :: rest) =
      { reading :=
          match earlier with
          | some fault => .error fault
          | none => .ok (String.ofList taken.reverse)
        skipping := .ok ()
        rest := rest
        stop := offset + 1 } := by
  cases earlier <;> rw [scanQuote]

/-- An escaped unit is half of a pair, or a character by itself. -/
theorem scanQuote_unit
    {digits : List Char}
    {code : Nat}
    (isUnit : ∀ offset, readHex offset digits = .ok (code, rest)) :
    scanQuote offset taken earlier ('\\' :: 'u' :: digits) =
      if isTrailingSurrogate code then
        scanQuote (offset + 6) taken
          (earlier <|> some ⟨.loneSurrogate, offset + 6⟩) rest
      else if isLeadingSurrogate code then
        match readTrailing (offset + 6) rest with
        | .ok (trailing, afterPair) =>
            scanQuote (offset + 12) (pairedChar code trailing :: taken) earlier
              afterPair
        | .error fault =>
            scanQuote (offset + 6) taken (earlier <|> some fault) rest
      else
        scanQuote (offset + 6) (Char.ofNat code :: taken) earlier rest := by
  rw [scanQuote]
  split
  · rename_i failed
    rw [isUnit] at failed
    cases failed
  · rename_i read
    rw [isUnit] at read
    cases read
    split
    · rfl
    · split
      · split <;> rename_i read <;> rw [read]
      · rfl

/-! ## Whole literals -/

/-- That a literal was scanned, with what is left and what is kept of it. -/
structure Scanned
    (quote : Quote)
    (rest : List Char)
    (kept : Option String) :
    Prop where
  skipping_eq : quote.skipping = .ok ()
  rest_eq : quote.rest = rest
  reading_eq : quote.reading.toOption = kept

/--
That text between quotes is scanned to its end wherever it stands, and which
characters are kept of it.
-/
def ScansAs
    (body : List Char)
    (kept : Option (List Char)) :
    Prop :=
  ∀ offset taken earlier rest,
    Scanned (scanQuote offset taken earlier (body ++ '"' :: rest)) rest
      (match earlier with
        | none => kept.map fun chars => String.ofList (taken.reverse ++ chars)
        | some _ => none)

namespace ScansAs

variable
    {body others : List Char}
    {kept : Option (List Char)}

theorem nil : ScansAs [] (some []) := by
  intro offset taken earlier rest
  rw [List.nil_append, scanQuote_close]
  cases earlier with
  | none => exact ⟨rfl, rfl, by simp [Except.toOption]⟩
  | some fault => exact ⟨rfl, rfl, rfl⟩

/-- What stands for one character adds it to what is kept. -/
theorem cons
    (char : Char)
    (scans : ScansAs others kept)
    (step : ∀ offset taken earlier rest, ∃ next,
      scanQuote offset taken earlier (body ++ '"' :: rest) =
        scanQuote next (char :: taken) earlier (others ++ '"' :: rest)) :
    ScansAs body (kept.map (char :: ·)) := by
  intro offset taken earlier rest
  obtain ⟨next, stepEq⟩ := step offset taken earlier rest
  rw [stepEq]
  have scanned := scans next (char :: taken) earlier rest
  cases earlier with
  | none => cases kept <;> simpa using scanned
  | some fault => exact scanned

/-- Of a literal with half a pair nothing is kept. -/
theorem lone
    (scans : ScansAs others kept)
    (step : ∀ offset taken earlier rest, ∃ next fault,
      scanQuote offset taken earlier (body ++ '"' :: rest) =
        scanQuote next taken (some fault) (others ++ '"' :: rest)) :
    ScansAs body none := by
  intro offset taken earlier rest
  obtain ⟨next, fault, stepEq⟩ := step offset taken earlier rest
  rw [stepEq]
  cases earlier <;> exact scans next taken (some fault) rest

end ScansAs

/-- What follows half a pair is the other half, or it is not, wherever it stands. -/
theorem Escaped.readTrailing
    {body : List Char}
    (escaped : Escaped body) :
    (∃ code others, Escaped others ∧ others.length < body.length ∧
        ∀ offset rest, Json.readTrailing offset (body ++ '"' :: rest) =
          .ok (code, others ++ '"' :: rest)) ∨
      ∀ offset rest, ∃ fault,
        Json.readTrailing offset (body ++ '"' :: rest) = .error fault := by
  cases escaped with
  | nil =>
      exact .inr fun offset rest => ⟨_, rfl⟩
  | plain _ notBackslash =>
      refine .inr fun offset rest => ⟨⟨.endInHexEscape, offset + 1⟩, ?_⟩
      rw [List.cons_append, Json.readTrailing]
      · exact List.cons_ne_nil _ _
      all_goals simp [notBackslash]
  | @letter letter _ _ stands =>
      have notUnit := ne_u_of_simpleEscape? stands
      refine .inr fun offset rest => ⟨⟨.endInHexEscape, offset + 2⟩, ?_⟩
      rw [List.cons_append, List.cons_append, Json.readTrailing]
      all_goals simp [notUnit]
  | @unit first second third fourth a b c d others firstDigit secondDigit
      thirdDigit fourthDigit othersEscaped =>
      have isUnit := readHex_digits firstDigit secondDigit thirdDigit fourthDigit
      by_cases isTrailing :
          isTrailingSurrogate (((a * 16 + b) * 16 + c) * 16 + d) = true
      · refine .inl ⟨((a * 16 + b) * 16 + c) * 16 + d, others, othersEscaped,
          ?_, ?_⟩
        · simp only [List.length_cons]
          omega
        · intro offset rest
          simp only [List.cons_append, Json.readTrailing, isUnit]
          exact if_pos isTrailing
      · refine .inr fun offset rest => ⟨⟨.loneSurrogate, offset + 6⟩, ?_⟩
        simp only [List.cons_append, Json.readTrailing, isUnit]
        exact if_neg isTrailing

/-- Text with complete escapes is scanned to the end of its literal. -/
theorem Escaped.exists_scansAs
    {body : List Char}
    (escaped : Escaped body) :
    ∃ kept, ScansAs body kept := by
  -- The two halves of a pair are taken at once, so the induction is on the length.
  cases escaped with
  | nil =>
      exact ⟨_, .nil⟩
  | plain notQuote notBackslash notControl others =>
      obtain ⟨kept, scans⟩ := others.exists_scansAs
      exact ⟨_, scans.cons _ fun _ _ _ _ =>
        ⟨_, scanQuote_plain notQuote notBackslash notControl⟩⟩
  | letter stands others =>
      obtain ⟨kept, scans⟩ := others.exists_scansAs
      exact ⟨_, scans.cons _ fun _ _ _ _ => ⟨_, scanQuote_letter stands⟩⟩
  | @unit first second third fourth a b c d others firstDigit secondDigit
      thirdDigit fourthDigit othersEscaped =>
      obtain ⟨kept, scans⟩ := othersEscaped.exists_scansAs
      have isUnit (rest : List Char) (offset : Nat) :
          readHex offset (first :: second :: third :: fourth :: others ++ '"' :: rest) =
            .ok (((a * 16 + b) * 16 + c) * 16 + d, others ++ '"' :: rest) :=
        readHex_digits firstDigit secondDigit thirdDigit fourthDigit offset _
      generalize ((a * 16 + b) * 16 + c) * 16 + d = code at isUnit
      by_cases isTrailing : isTrailingSurrogate code = true
      · refine ⟨none, scans.lone ?_⟩
        intro offset taken earlier rest
        rw [List.cons_append, List.cons_append, scanQuote_unit (isUnit rest),
          if_pos isTrailing]
        cases earlier <;> exact ⟨_, _, rfl⟩
      · by_cases isLeading : isLeadingSurrogate code = true
        · rcases othersEscaped.readTrailing with
            ⟨trailing, afterPair, pairEscaped, shorter, pairs⟩ | unpaired
          · obtain ⟨keptAfter, scansAfter⟩ := pairEscaped.exists_scansAs
            refine ⟨_, scansAfter.cons (pairedChar code trailing) ?_⟩
            refine fun offset taken earlier rest => ⟨offset + 12, ?_⟩
            rw [List.cons_append, List.cons_append, scanQuote_unit (isUnit rest),
              if_neg isTrailing, if_pos isLeading, pairs]
          · refine ⟨none, scans.lone ?_⟩
            intro offset taken earlier rest
            obtain ⟨fault, isLone⟩ := unpaired (offset + 6) rest
            rw [List.cons_append, List.cons_append, scanQuote_unit (isUnit rest),
              if_neg isTrailing, if_pos isLeading, isLone]
            cases earlier <;> exact ⟨_, _, rfl⟩
        · refine ⟨_, scans.cons (Char.ofNat code) ?_⟩
          refine fun offset taken earlier rest => ⟨offset + 6, ?_⟩
          rw [List.cons_append, List.cons_append, scanQuote_unit (isUnit rest),
            if_neg isTrailing, if_neg isLeading]
termination_by body.length

/-- What is kept of text between quotes. -/
def keptText? (body : List Char) : Option String :=
  (scanQuote 0 [] none (body ++ ['"'])).reading.toOption

theorem ScansAs.keptText?_eq
    {body : List Char}
    {kept : Option (List Char)}
    (scans : ScansAs body kept) :
    keptText? body = kept.map String.ofList :=
  (scans 0 [] none []).reading_eq

/-- A literal with complete escapes is scanned to its end wherever it stands. -/
theorem Escaped.scanned
    {body : List Char}
    (escaped : Escaped body)
    (offset : Nat)
    (rest : List Char) :
    Scanned (scanQuote offset [] none (body ++ '"' :: rest)) rest
      (keptText? body) := by
  obtain ⟨kept, scans⟩ := escaped.exists_scansAs
  rw [scans.keptText?_eq]
  exact scans offset [] none rest

/-! ## Literals that were scanned -/

/-- An escape that was read has four digits. -/
theorem exists_digits_of_readHex
    {offset code : Nat}
    {chars rest : List Char}
    (read : readHex offset chars = .ok (code, rest)) :
    ∃ first second third fourth a b c d,
      chars = first :: second :: third :: fourth :: rest ∧
        hexDigit? first = some a ∧ hexDigit? second = some b ∧
        hexDigit? third = some c ∧ hexDigit? fourth = some d := by
  unfold readHex at read
  split at read
  · split at read
    · rename_i isFirst isSecond isThird isFourth
      cases read
      exact ⟨_, _, _, _, _, _, _, _, rfl, isFirst, isSecond, isThird, isFourth⟩
    · cases read
  · split at read <;> cases read

/-- An escape that was read is followed by escaped text if what follows it is. -/
theorem Escaped.of_readHex
    {offset code : Nat}
    {digits body rest : List Char}
    (read : readHex offset digits = .ok (code, body ++ rest))
    (escaped : Escaped body) :
    ∃ front, '\\' :: 'u' :: digits = front ++ rest ∧ Escaped front := by
  obtain ⟨first, second, third, fourth, a, b, c, d, rfl, isFirst, isSecond, isThird,
    isFourth⟩ := exists_digits_of_readHex read
  exact ⟨_, rfl, .unit isFirst isSecond isThird isFourth escaped⟩

/-- The second half of a pair is an escape by itself. -/
theorem exists_digits_of_readTrailing
    {offset code : Nat}
    {chars rest : List Char}
    (read : readTrailing offset chars = .ok (code, rest)) :
    ∃ digits, chars = '\\' :: 'u' :: digits ∧
      ∃ next found, readHex next digits = .ok (found, rest) := by
  unfold readTrailing at read
  split at read
  · cases read
  · cases read
  · rename_i digits
    refine ⟨digits, rfl, offset + 2, ?_⟩
    cases hex : readHex (offset + 2) digits with
    | error fault =>
        rw [hex] at read
        cases read
    | ok taken =>
        obtain ⟨found, others⟩ := taken
        rw [hex] at read
        change (if isTrailingSurrogate found = true then _ else _) = _ at read
        split at read
        · cases read
          exact ⟨code, rfl⟩
        · cases read
  · cases read
  · cases read

/-- What was scanned to its end has complete escapes before its closing quote. -/
theorem exists_escaped_of_skipping
    {offset : Nat}
    {taken : List Char}
    {earlier : Option Fault}
    {chars : List Char}
    (scanned : (scanQuote offset taken earlier chars).skipping = .ok ()) :
    ∃ body, chars = body ++ '"' :: (scanQuote offset taken earlier chars).rest ∧
      Escaped body := by
  fun_induction scanQuote offset taken earlier chars with
  | case1 | case3 | case4 | case10 | case11 => cases scanned
  | case2 => exact ⟨[], rfl, .nil⟩
  | case5 _ _ _ _ _ rest read _ inductionHypothesis =>
      obtain ⟨body, split, escaped⟩ := inductionHypothesis scanned
      exact escaped.of_readHex (split ▸ read)
  | case6 _ _ _ _ _ rest read _ _ _ _ pair inductionHypothesis =>
      obtain ⟨body, split, escaped⟩ := inductionHypothesis scanned
      obtain ⟨digits, rfl, next, found, readToo⟩ := exists_digits_of_readTrailing pair
      obtain ⟨front, splitToo, escapedToo⟩ := escaped.of_readHex (split ▸ readToo)
      exact escapedToo.of_readHex (splitToo ▸ read)
  | case7 _ _ _ _ _ rest read _ _ _ _ inductionHypothesis =>
      obtain ⟨body, split, escaped⟩ := inductionHypothesis scanned
      exact escaped.of_readHex (split ▸ read)
  | case8 _ _ _ _ _ rest read _ _ inductionHypothesis =>
      obtain ⟨body, split, escaped⟩ := inductionHypothesis scanned
      exact escaped.of_readHex (split ▸ read)
  | case9 _ _ _ letter rest _ char stands inductionHypothesis =>
      obtain ⟨body, split, escaped⟩ := inductionHypothesis scanned
      exact ⟨'\\' :: letter :: body, congrArg _ (congrArg _ split), .letter stands escaped⟩
  | case12 _ _ _ char rest notQuote atEnd _ notEscape notControl inductionHypothesis =>
      obtain ⟨body, split, escaped⟩ := inductionHypothesis scanned
      have notBackslash : char ≠ '\\' := by
        rintro rfl
        cases rest with
        | nil => exact atEnd rfl rfl
        | cons letter others => exact notEscape letter others rfl rfl
      exact ⟨char :: body, congrArg _ split,
        .plain notQuote notBackslash notControl escaped⟩

/-- A literal that was scanned is scanned in the same way wherever it stands. -/
theorem scanQuote_append
    {first : Nat}
    {chars : List Char}
    (scanned : (scanQuote first [] none chars).skipping = .ok ())
    (offset : Nat)
    (rest : List Char) :
    Scanned (scanQuote offset [] none (chars ++ rest))
      ((scanQuote first [] none chars).rest ++ rest)
      (scanQuote first [] none chars).reading.toOption := by
  obtain ⟨body, split, escaped⟩ := exists_escaped_of_skipping scanned
  have here := escaped.scanned first (scanQuote first [] none chars).rest
  have there := escaped.scanned offset ((scanQuote first [] none chars).rest ++ rest)
  rw [← split] at here
  rw [← List.cons_append, ← List.append_assoc, ← split] at there
  rw [here.reading_eq]
  exact there

end ApiTree.Json
