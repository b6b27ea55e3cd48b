import ApiTree.Json.Numeral
import ApiTree.Json.Quote

namespace ApiTree.Json

/-!
# Lexemes

A JSON text is cut into lexemes, each with the byte offsets where it starts and
stops.  The list ends early at a character that starts no lexeme or at a
literal that breaks off: no reader gets past either.
-/

/-- The characters that structure a text. -/
inductive Mark where
  | openArray
  | closeArray
  | openObject
  | closeObject
  | colon
  | comma
  deriving Repr, DecidableEq

/-- The pieces of a text. -/
inductive Lexeme where
  | mark (mark : Mark)
  | null
  | bool (value : Bool)
  | number (value : Except Fault Number)
  | string (value : Except Fault String)
  /-- A word or a number that breaks off. -/
  | broken (reading skipping : Fault)
  /-- A string that breaks off. -/
  | brokenString (reading skipping : Fault)
  /-- A character that starts no lexeme. -/
  | stray

/-- A lexeme with the offset of its first byte and the offset after its last. -/
structure Placed where
  lexeme : Lexeme
  start : Nat
  stop : Nat

/-- Whether a character may stand between lexemes. -/
def isSpace (char : Char) : Bool :=
  char == ' ' || char == '\t' || char == '\n' || char == '\r'

/-- The mark that a character is. -/
def mark? (char : Char) : Option Mark :=
  if char = '[' then some .openArray
  else if char = ']' then some .closeArray
  else if char = '\x7b' then some .openObject
  else if char = '\x7d' then some .closeObject
  else if char = ':' then some .colon
  else if char = ',' then some .comma
  else none

/-- The word that a character starts: its other letters and its meaning. -/
def word? (char : Char) : Option (List Char × Lexeme) :=
  if char = 'n' then some (['u', 'l', 'l'], .null)
  else if char = 't' then some (['r', 'u', 'e'], .bool true)
  else if char = 'f' then some (['a', 'l', 's', 'e'], .bool false)
  else none

/-- Scans the other letters of a word. -/
def scanLetters
    (offset : Nat) :
    List Char → List Char → Except Fault (List Char)
  | [], rest => .ok rest
  | _ :: _, [] => .error ⟨.endInValue, offset⟩
  | letter :: letters, char :: rest =>
      if char = letter then
        scanLetters (offset + 1) letters rest
      else
        .error ⟨.expectedWord, offset + 1⟩

/-- Scanning letters never lengthens the rest. -/
theorem length_scanLetters_le
    {letters : List Char} :
    ∀ {offset : Nat} {chars rest : List Char},
      scanLetters offset letters chars = .ok rest →
        rest.length ≤ chars.length := by
  induction letters with
  | nil =>
      intro offset chars rest success
      simp only [scanLetters, Except.ok.injEq] at success
      subst success
      exact Nat.le_refl _
  | cons letter letters inductionHypothesis =>
      intro offset chars rest success
      cases chars with
      | nil => simp [scanLetters] at success
      | cons char others =>
          simp only [scanLetters] at success
          split at success
          · have shorter := inductionHypothesis success
            simp only [List.length_cons]
            omega
          · cases success

/-- One lexeme and the characters after it. -/
structure Step where
  placed : Placed
  rest : List Char

/-- Whether a lexeme ends the list of lexemes. -/
def Lexeme.isFinal : Lexeme → Bool
  | .broken _ _ | .brokenString _ _ | .stray => true
  | _ => false

/-- The lexeme that starts with a given character. -/
def firstLexeme
    (offset : Nat)
    (char : Char)
    (rest : List Char) :
    Step :=
  match mark? char with
  | some mark => ⟨⟨.mark mark, offset, offset + 1⟩, rest⟩
  | none =>
      match word? char with
      | some (letters, meaning) =>
          match scanLetters (offset + 1) letters rest with
          | .ok others =>
              ⟨⟨meaning, offset, offset + 1 + letters.length⟩, others⟩
          | .error fault =>
              ⟨⟨.broken fault fault, offset, fault.offset⟩, []⟩
      | none =>
          if char = '"' then
            let quote := scanQuote (offset + 1) [] none rest
            match quote.skipping with
            | .ok () =>
                ⟨⟨.string quote.reading, offset, quote.stop⟩, quote.rest⟩
            | .error skipping =>
                let reading :=
                  match quote.reading with
                  | .error fault => fault
                  | .ok _ => skipping
                ⟨⟨.brokenString reading skipping, offset, quote.stop⟩, []⟩
          else if char = '-' ∨ (digit? char).isSome then
            match scanNumeral offset (char :: rest) with
            | .ok (numeral, others) =>
                ⟨⟨.number numeral.value, offset, numeral.stop⟩, others⟩
            | .error fault =>
                ⟨⟨.broken fault.reading fault.skipping, offset, fault.reading.offset⟩,
                  []⟩
          else
            ⟨⟨.stray, offset, offset⟩, []⟩

/-- A lexeme never lengthens the characters after its first one. -/
theorem length_firstLexeme_rest_le
    (offset : Nat)
    (char : Char)
    (rest : List Char) :
    (firstLexeme offset char rest).rest.length ≤ rest.length := by
  unfold firstLexeme
  split
  · exact Nat.le_refl _
  · split
    · split
      · rename_i others scanned
        exact length_scanLetters_le scanned
      · exact Nat.zero_le _
    · split
      · have shorter := length_scanQuote_rest_le (offset + 1) [] none rest
        simp only
        split
        · exact shorter
        · exact Nat.zero_le _
      · split
        · split
          · rename_i scanned
            have shorter := length_scanNumeral scanned
            rw [List.length_cons] at shorter
            simp only
            omega
          · exact Nat.zero_le _
        · exact Nat.zero_le _

/-- The lexemes of a text that starts at an offset. -/
def lexemes
    (offset : Nat)
    (chars : List Char) :
    List Placed :=
  match chars with
  | [] => []
  | char :: rest =>
      if isSpace char then
        lexemes (offset + 1) rest
      else
        let step := firstLexeme offset char rest
        if step.placed.lexeme.isFinal then
          [step.placed]
        else
          step.placed :: lexemes step.placed.stop step.rest
termination_by chars.length
decreasing_by
  · simp only [List.length_cons]
    omega
  · have shorter := length_firstLexeme_rest_le offset char rest
    simp only [List.length_cons]
    omega

end ApiTree.Json
