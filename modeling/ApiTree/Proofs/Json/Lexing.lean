import ApiTree.Proofs.Json.Bare
import Mathlib.Data.List.Forall2

namespace ApiTree.Json

/-!
# Lexemes in other places

What follows a text does not change how it is cut into lexemes, as long as it cannot be
a part of the last one, and neither does the place where the text stands: the lexemes
are the same but for their places and what is known of the faults inside them.
-/

/-- A lexeme without what is known of its faults. -/
def Lexeme.bare : Lexeme → Lexeme
  | .number value => .number (bareOutcome value)
  | .string value => .string (bareOutcome value)
  | .broken _ _ => .broken ⟨.expectedValue, 0⟩ ⟨.expectedValue, 0⟩
  | .brokenString _ _ => .brokenString ⟨.expectedValue, 0⟩ ⟨.expectedValue, 0⟩
  | other => other

/-- The tree of a lexeme that is a value by itself. -/
def Placed.leaf? (placed : Placed) : Option Tree :=
  match placed.lexeme with
  | .null => some (.null placed.start placed.stop)
  | .bool value => some (.bool value placed.start placed.stop)
  | .number value => some (.number value placed.start placed.stop)
  | .string value => some (.string value placed.start placed.stop)
  | _ => none

/-- That two lexemes differ in their places only. -/
def Placed.SameLexeme (one other : Placed) : Prop :=
  one.lexeme.bare = other.lexeme.bare

namespace Placed.SameLexeme

variable
    {one other : Placed}

theorem mark
    {mark : Mark}
    (same : one.SameLexeme other)
    (isMark : one.lexeme = .mark mark) :
    other.lexeme = .mark mark := by
  rw [SameLexeme, isMark] at same
  cases isLexeme : other.lexeme <;> rw [isLexeme] at same <;> cases same
  rfl

theorem string
    {name : Except Fault String}
    (same : one.SameLexeme other)
    (isString : one.lexeme = .string name) :
    ∃ otherName, other.lexeme = .string otherName ∧
      bareOutcome name = bareOutcome otherName := by
  rw [SameLexeme, isString] at same
  cases isLexeme : other.lexeme with
  | string otherName =>
      rw [isLexeme] at same
      exact ⟨otherName, rfl, Lexeme.string.inj same⟩
  | mark | null | bool | number | broken | brokenString | stray =>
      rw [isLexeme] at same
      cases same

theorem isFinal_eq (same : one.SameLexeme other) :
    one.lexeme.isFinal = other.lexeme.isFinal := by
  have isFinal_bare (lexeme : Lexeme) : lexeme.bare.isFinal = lexeme.isFinal := by
    cases lexeme <;> rfl
  rw [← isFinal_bare, same, isFinal_bare]

theorem map_bare_leaf? (placed : Placed) :
    placed.leaf?.map Tree.bare = Placed.leaf? ⟨placed.lexeme.bare, 0, 0⟩ := by
  obtain ⟨lexeme, start, stop⟩ := placed
  cases lexeme <;> rfl

theorem leaf
    {tree : Tree}
    (same : one.SameLexeme other)
    (isLeaf : one.leaf? = some tree) :
    ∃ otherTree, other.leaf? = some otherTree ∧ tree.bare = otherTree.bare := by
  have bareLeaf : other.leaf?.map Tree.bare = some tree.bare := by
    rw [map_bare_leaf?, ← same, ← map_bare_leaf?, isLeaf, Option.map_some]
  obtain ⟨otherTree, isOther, sameTree⟩ := Option.map_eq_some_iff.mp bareLeaf
  exact ⟨otherTree, isOther, sameTree.symm⟩

end Placed.SameLexeme

/-! ## Texts that something follows -/

variable
    {chars rest : List Char}

theorem scanLetters_append
    {letters left : List Char}
    {first : Nat}
    (scanned : scanLetters first letters chars = .ok left)
    (offset : Nat)
    (rest : List Char) :
    scanLetters offset letters (chars ++ rest) = .ok (left ++ rest) := by
  induction letters generalizing first offset chars with
  | nil =>
      cases scanned
      rfl
  | cons letter letters inductionHypothesis =>
      cases chars with
      | nil => cases scanned
      | cons char chars =>
          rw [scanLetters] at scanned
          rw [List.cons_append, scanLetters]
          split at scanned
          · rename_i isLetter
            rw [if_pos isLetter]
            exact inductionHypothesis scanned _
          · cases scanned

theorem firstLexeme_quote
    (offset : Nat)
    (chars : List Char) :
    firstLexeme offset '"' chars =
      match (scanQuote (offset + 1) [] none chars).skipping with
      | .ok () =>
          ⟨⟨.string (scanQuote (offset + 1) [] none chars).reading, offset,
              (scanQuote (offset + 1) [] none chars).stop⟩,
            (scanQuote (offset + 1) [] none chars).rest⟩
      | .error skipping =>
          ⟨⟨.brokenString
              (match (scanQuote (offset + 1) [] none chars).reading with
                | .error fault => fault
                | .ok _ => skipping) skipping, offset,
              (scanQuote (offset + 1) [] none chars).stop⟩, []⟩ :=
  rfl

/-- The lexeme that a text starts with is the same in another place. -/
theorem exists_firstLexeme_append
    {offset : Nat}
    {char : Char}
    (delimited : Delimited rest)
    (goesOn : (firstLexeme offset char chars).placed.lexeme.isFinal = false)
    (other : Nat) :
    ∃ placed,
      firstLexeme other char (chars ++ rest) =
          ⟨placed, (firstLexeme offset char chars).rest ++ rest⟩ ∧
        (firstLexeme offset char chars).placed.SameLexeme placed := by
  cases isMark : mark? char with
  | some mark =>
      simp only [firstLexeme, isMark]
      exact ⟨_, rfl, rfl⟩
  | none =>
      cases isWord : word? char with
      | some word =>
          obtain ⟨letters, meaning⟩ := word
          simp only [firstLexeme, isMark, isWord] at goesOn ⊢
          cases scanned : scanLetters (offset + 1) letters chars with
          | error fault =>
              rw [scanned] at goesOn
              cases goesOn
          | ok left =>
              simp only [scanLetters_append scanned]
              exact ⟨_, rfl, rfl⟩
      | none =>
          by_cases isQuote : char = '"'
          · subst isQuote
            rw [firstLexeme_quote] at goesOn ⊢
            rw [firstLexeme_quote]
            split at goesOn
            · rename_i scanned
              obtain ⟨skipping, restEq, reading⟩ :=
                scanQuote_append scanned (other + 1) rest
              simp only [skipping, restEq]
              exact ⟨_, rfl, congrArg Lexeme.string (bareOutcome_eq_iff.mpr reading.symm)⟩
            · cases goesOn
          · by_cases starts : char = '-' ∨ (digit? char).isSome
            · rw [Building.firstLexeme_of_starts starts] at goesOn ⊢
              rw [Building.firstLexeme_of_starts starts]
              cases scanned : scanNumeral offset (char :: chars) with
              | error fault =>
                  rw [scanned] at goesOn
                  cases goesOn
              | ok parts =>
                  obtain ⟨numeral, left⟩ := parts
                  obtain ⟨otherNumeral, scannedToo, same⟩ :=
                    scanNumeral_append delimited scanned other
                  rw [List.cons_append] at scannedToo
                  rw [scannedToo]
                  exact ⟨_, rfl, congrArg Lexeme.number
                    (bareOutcome_eq_iff.mpr same.toOption_value_eq.symm)⟩
            · simp only [firstLexeme, isMark, isWord, isQuote, starts, if_false] at goesOn
              cases goesOn

theorem lexemes_of_space
    {char : Char}
    (space : isSpace char = true)
    (offset : Nat)
    (chars : List Char) :
    lexemes offset (char :: chars) = lexemes (offset + 1) chars := by
  rw [lexemes, if_pos space]

/-- A text whose lexemes are complete is cut into the same ones in another place. -/
theorem exists_lexemes_append
    {offset : Nat}
    (delimited : Delimited rest)
    (goesOn : ∀ one ∈ lexemes offset chars, one.lexeme.isFinal = false)
    (other : Nat) :
    ∃ placed stop,
      lexemes other (chars ++ rest) = placed ++ lexemes stop rest ∧
        List.Forall₂ Placed.SameLexeme (lexemes offset chars) placed := by
  fun_induction lexemes offset chars generalizing other with
  | case1 => exact ⟨[], other, rfl, .nil⟩
  | case2 offset char chars space inductionHypothesis =>
      rw [List.cons_append, lexemes_of_space space]
      exact inductionHypothesis goesOn (other + 1)
  | case3 offset char chars notSpace first isFinal =>
      rw [goesOn _ List.mem_cons_self] at isFinal
      cases isFinal
  | case4 offset char chars notSpace first notFinal inductionHypothesis =>
      obtain ⟨firstGoesOn, othersGoOn⟩ := List.forall_mem_cons.mp goesOn
      obtain ⟨placed, firstEq, same⟩ :=
        exists_firstLexeme_append delimited firstGoesOn other
      have placedGoesOn : placed.lexeme.isFinal = false :=
        same.isFinal_eq ▸ firstGoesOn
      obtain ⟨others, stop, othersEq, othersSame⟩ :=
        inductionHypothesis othersGoOn placed.stop
      refine ⟨placed :: others, stop, ?_, .cons same othersSame⟩
      rw [List.cons_append, lexemes, if_neg notSpace, firstEq]
      simp only [placedGoesOn]
      exact congrArg (placed :: ·) othersEq

/-! ## Carriage returns at the end -/

theorem delimited_return : Delimited ['\r'] := by
  intro char isFirst
  cases isFirst
  exact .inr (.inr (.inr rfl))

theorem scanLetters_append_error
    {letters : List Char}
    {first : Nat}
    {fault : Fault}
    (failed : scanLetters first letters chars = .error fault)
    (noReturn : '\r' ∉ letters)
    (offset : Nat) :
    ∃ other, scanLetters offset letters (chars ++ ['\r']) = .error other := by
  induction letters generalizing first offset chars with
  | nil => cases failed
  | cons letter letters inductionHypothesis =>
      obtain ⟨notLetter, notOthers⟩ := not_or.mp (mt List.mem_cons.mpr noReturn)
      cases chars with
      | nil => exact ⟨_, if_neg notLetter⟩
      | cons char chars =>
          rw [scanLetters] at failed
          rw [List.cons_append, scanLetters]
          split at failed
          · rename_i isLetter
            rw [if_pos isLetter]
            exact inductionHypothesis failed notOthers _
          · rename_i isOther
            exact ⟨_, if_neg isOther⟩

/-- A word is complete, and no carriage return belongs to it. -/
theorem complete_of_word?
    {char : Char}
    {letters : List Char}
    {meaning : Lexeme}
    (isWord : word? char = some (letters, meaning)) :
    meaning.isFinal = false ∧ '\r' ∉ letters := by
  unfold word? at isWord
  split at isWord
  · cases isWord
    exact ⟨rfl, by decide⟩
  · split at isWord
    · cases isWord
      exact ⟨rfl, by decide⟩
    · split at isWord
      · cases isWord
        exact ⟨rfl, by decide⟩
      · cases isWord

/-- A literal is not completed by a carriage return. -/
theorem scanQuote_append_error
    {first : Nat}
    {fault : Fault}
    (failed : (scanQuote first [] none chars).skipping = .error fault)
    (offset : Nat) :
    ∃ other, (scanQuote offset [] none (chars ++ ['\r'])).skipping = .error other := by
  cases scanned : (scanQuote offset [] none (chars ++ ['\r'])).skipping with
  | error other => exact ⟨other, rfl⟩
  | ok =>
      obtain ⟨body, split, escaped⟩ := exists_escaped_of_skipping scanned
      generalize (scanQuote offset [] none (chars ++ ['\r'])).rest = left at split
      -- The closing quote is not the last character, so it stands before the return.
      rcases List.eq_nil_or_concat left with rfl | ⟨left, last, rfl⟩
      · have lasts := congrArg List.getLast? split
        rw [List.getLast?_concat, List.getLast?_concat] at lasts
        cases lasts
      · rw [List.concat_eq_append, ← List.cons_append, ← List.append_assoc] at split
        obtain ⟨rfl, -⟩ := List.append_inj' split rfl
        rw [(escaped.scanned first left).skipping_eq] at failed
        cases failed

/-- What breaks off is not completed by a carriage return. -/
theorem isFinal_firstLexeme_append
    {offset : Nat}
    {char : Char}
    (breaksOff : (firstLexeme offset char chars).placed.lexeme.isFinal = true)
    (other : Nat) :
    (firstLexeme other char (chars ++ ['\r'])).placed.lexeme.isFinal = true := by
  cases isMark : mark? char with
  | some mark =>
      simp only [firstLexeme, isMark] at breaksOff
      cases breaksOff
  | none =>
      cases isWord : word? char with
      | some word =>
          obtain ⟨letters, meaning⟩ := word
          simp only [firstLexeme, isMark, isWord] at breaksOff ⊢
          cases scanned : scanLetters (offset + 1) letters chars with
          | ok left =>
              rw [scanned] at breaksOff
              rw [(complete_of_word? isWord).1] at breaksOff
              cases breaksOff
          | error fault =>
              obtain ⟨otherFault, failed⟩ := scanLetters_append_error scanned
                (complete_of_word? isWord).2 (other + 1)
              rw [failed]
              rfl
      | none =>
          by_cases isQuote : char = '"'
          · subst isQuote
            rw [firstLexeme_quote] at breaksOff ⊢
            split at breaksOff
            · cases breaksOff
            · rename_i failed
              obtain ⟨otherFault, failedToo⟩ := scanQuote_append_error failed (other + 1)
              simp only [failedToo]
              rfl
          · by_cases starts : char = '-' ∨ (digit? char).isSome
            · rw [Building.firstLexeme_of_starts starts] at breaksOff ⊢
              cases scanned : scanNumeral offset (char :: chars) with
              | ok parts =>
                  rw [scanned] at breaksOff
                  cases breaksOff
              | error fault =>
                  obtain ⟨otherFault, failed⟩ :=
                    scanNumeral_append_error delimited_return scanned other
                  rw [List.cons_append] at failed
                  rw [failed]
                  rfl
            · simp only [firstLexeme, isMark, isWord, isQuote, starts, if_false]
              rfl

/-- A text that breaks off breaks off with a carriage return at its end as well. -/
theorem not_final_of_append
    {offset other : Nat}
    (goesOn : ∀ one ∈ lexemes other (chars ++ ['\r']), one.lexeme.isFinal = false) :
    ∀ one ∈ lexemes offset chars, one.lexeme.isFinal = false := by
  fun_induction lexemes offset chars generalizing other with
  | case1 => exact List.forall_mem_nil _
  | case2 offset char chars space inductionHypothesis =>
      rw [List.cons_append, lexemes_of_space space] at goesOn
      exact inductionHypothesis goesOn
  | case3 offset char chars notSpace first =>
      rename_i isFinal
      have finalToo := isFinal_firstLexeme_append isFinal other
      rw [List.cons_append, lexemes, if_neg notSpace] at goesOn
      simp only [finalToo, if_true] at goesOn
      rw [goesOn _ List.mem_cons_self] at finalToo
      cases finalToo
  | case4 offset char chars notSpace first =>
      rename_i notFinal inductionHypothesis
      obtain ⟨placed, firstEq, same⟩ :=
        exists_firstLexeme_append delimited_return (Bool.eq_false_iff.mpr notFinal) other
      have placedGoesOn : placed.lexeme.isFinal = false :=
        same.isFinal_eq ▸ Bool.eq_false_iff.mpr notFinal
      rw [List.cons_append, lexemes, if_neg notSpace, firstEq] at goesOn
      simp only [placedGoesOn] at goesOn
      exact List.forall_mem_cons.mpr ⟨Bool.eq_false_iff.mpr notFinal,
        inductionHypothesis (List.forall_mem_cons.mp goesOn).2⟩

/-- Without a carriage return at its end a text is cut into the same lexemes. -/
theorem sameLexemes_of_append
    {offset : Nat}
    (goesOn : ∀ one ∈ lexemes offset (chars ++ ['\r']), one.lexeme.isFinal = false) :
    List.Forall₂ Placed.SameLexeme (lexemes offset (chars ++ ['\r']))
      (lexemes offset chars) := by
  obtain ⟨placed, stop, lexemesEq, same⟩ :=
    exists_lexemes_append delimited_return (not_final_of_append goesOn) offset
  have noMore : lexemes stop ['\r'] = [] := by
    rw [lexemes_of_space rfl, lexemes]
  rw [lexemesEq, noMore, List.append_nil]
  exact .flip (same.imp fun _ _ => Eq.symm)

end ApiTree.Json
