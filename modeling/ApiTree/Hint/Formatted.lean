import ApiTree.Hint.Quote

namespace ApiTree.Hint

/-!
# Formatted strings

The body of a formatted string is literal text with expressions between braces.
An expression may be followed by a conversion and by a format, which is again
literal text with expressions, one level deep.  Doubled braces stand for
themselves outside formats.
-/

/-- How deep formats may nest. -/
def formatLimit : Nat := 2

/-- The characters that pad an expression. -/
def isPadding (char : Char) : Bool :=
  char == ' ' || char == '\t' || char == '\n' || char == '\x0c' || char == '\r'

/-- What ends a piece of literal text. -/
inductive PieceEnd where
  /-- A doubled brace, which belongs to the text. -/
  | doubled
  /-- A brace that is not doubled, or the end. -/
  | stopped
  deriving Repr, DecidableEq

/-- A piece of literal text, what ended it, and what follows. -/
structure Piece where
  text : List Char
  ending : PieceEnd
  rest : List Char

/-- A piece with more text in front. -/
def Piece.prepend
    (chars : List Char)
    (piece : Piece) :
    Piece :=
  { piece with text := chars ++ piece.text }

/-- Whether a character is a brace. -/
def isBrace (char : Char) : Bool :=
  char == '\x7b' || char == '\x7d'

/-- The literal text at the start of a body; the bound is its length. -/
def literalPiece
    (isRaw isFormat : Bool) :
    Nat → List Char → Option Piece
  | _, [] => some ⟨[], .stopped, []⟩
  | 0, _ => none
  | bound + 1, char :: rest =>
      if isBrace char then
        if isFormat then
          some ⟨[], .stopped, char :: rest⟩
        else if rest.head? = some char then
          some ⟨[char], .doubled, rest.drop 1⟩
        else if char = '\x7d' then
          none
        else
          some ⟨[], .stopped, char :: rest⟩
      else if !isRaw && char == '\\' then
        match rest with
        | 'N' :: '\x7b' :: others =>
            let name := others.takeWhile (· != '\x7d')
            let closed := (others.dropWhile (· != '\x7d')).take 1
            (literalPiece isRaw isFormat bound
                (others.drop (name.length + closed.length))).map
              (·.prepend (['\\', 'N', '\x7b'] ++ name ++ closed))
        | 'N' :: other :: others =>
            (literalPiece isRaw isFormat bound others).map
              (·.prepend ['\\', 'N', other])
        | next :: others =>
            if isBrace next then
              (literalPiece isRaw isFormat bound rest).map (·.prepend [char])
            else
              (literalPiece isRaw isFormat bound others).map
                (·.prepend [char, next])
        | [] => some ⟨[char], .stopped, []⟩
      else
        (literalPiece isRaw isFormat bound rest).map (·.prepend [char])

/-- Where the search for the end of an expression stands. -/
structure ExpressionScan where
  /-- The quote of the string that the search is in, and whether it is tripled. -/
  quote : Option (Char × Bool) := none
  /-- The brackets that are open, innermost first. -/
  brackets : List Char := []

/-- Whether a character ends an expression outside brackets. -/
def isExpressionEnd (char : Char) : Bool :=
  char == '!' || char == ':' || char == '\x7d' || char == '=' || char == '<' ||
    char == '>'

/-- Whether a character opens a bracket. -/
def isOpening (char : Char) : Bool :=
  char == '(' || char == '[' || char == '\x7b'

/-- Whether a character closes a bracket. -/
def isClosing (char : Char) : Bool :=
  char == ')' || char == ']' || char == '\x7d'

/-- Whether a bracket closes another. -/
def closes (opening closing : Char) : Bool :=
  closer? (String.singleton opening) == some (String.singleton closing)

/-- An expression and what follows it. -/
def expressionPiece
    (scan : ExpressionScan) :
    Nat → List Char → Option (List Char × List Char)
  | _, [] =>
      if scan.quote.isSome || !scan.brackets.isEmpty then none else some ([], [])
  | 0, _ => none
  | bound + 1, char :: rest =>
      let continueWith (scan : ExpressionScan) (taken left : List Char) :=
        (expressionPiece scan bound left).map fun found =>
          (taken ++ found.1, found.2)
      if char = '\\' then
        none
      else
        match scan.quote with
        | some (quote, false) =>
            if char = quote then
              continueWith { scan with quote := none } [char] rest
            else
              continueWith scan [char] rest
        | some (quote, true) =>
            match rest with
            | second :: third :: others =>
                if char = quote ∧ second = quote ∧ third = quote then
                  continueWith { scan with quote := none }
                    [char, second, third] others
                else
                  continueWith scan [char] rest
            | _ => continueWith scan [char] rest
        | none =>
            if isQuoteMark char then
              match rest with
              | second :: third :: others =>
                  if second = char ∧ third = char then
                    continueWith { scan with quote := some (char, true) }
                      [char, second, third] others
                  else
                    continueWith { scan with quote := some (char, false) } [char] rest
              | _ =>
                  continueWith { scan with quote := some (char, false) } [char] rest
            else if isOpening char then
              if bracketLimit ≤ scan.brackets.length then
                none
              else
                continueWith { scan with brackets := char :: scan.brackets } [char] rest
            else if char = '#' then
              none
            else if scan.brackets.isEmpty && isExpressionEnd char then
              let doubled :=
                rest.head? = some '=' ∧
                  (char = '!' ∨ char = '=' ∨ char = '<' ∨ char = '>')
              if doubled then
                continueWith scan [char, '='] (rest.drop 1)
              else if char = '<' ∨ char = '>' then
                continueWith scan [char] rest
              else
                some ([], char :: rest)
            else if isClosing char then
              match scan.brackets with
              | opening :: outer =>
                  if closes opening char then
                    continueWith { scan with brackets := outer } [char] rest
                  else
                    none
              | [] => none
            else
              continueWith scan [char] rest

/-- Skips the sign that asks for the text of an expression, and blanks behind it. -/
def skipSelfDocumenting : List Char → List Char
  | '=' :: rest => rest.dropWhile isPadding
  | chars => chars

/-- Skips a conversion. -/
def skipConversion : List Char → Option (List Char)
  | '!' :: letter :: rest =>
      if letter = 's' ∨ letter = 'r' ∨ letter = 'a' then some rest else none
  | '!' :: [] => none
  | chars => some chars

/-- Whether the escapes of a piece of text are complete. -/
def checkPiece
    (isRaw : Bool)
    (text : List Char) :
    Bool :=
  isRaw || (unescape text.length text).isSome

mutual

/-- The expressions of a body or a format, and what follows it. -/
def formattedParts
    (isRaw : Bool)
    (level : Nat) :
    Nat → List Char → Option (List (List Char) × List Char)
  | 0, _ => none
  | bound + 1, chars => do
      let piece ← literalPiece isRaw (level != 0) chars.length chars
      if !checkPiece isRaw piece.text then none
      match piece.ending with
      | .doubled => formattedParts isRaw level bound piece.rest
      | .stopped =>
          match piece.rest with
          | '\x7b' :: rest => do
              let (expressions, others) ← formattedField isRaw level bound rest
              let (later, left) ← formattedParts isRaw level bound others
              some (expressions ++ later, left)
          | rest => some ([], rest)

/-- The expressions of a field behind its opening brace, and what follows the field. -/
def formattedField
    (isRaw : Bool)
    (level : Nat) :
    Nat → List Char → Option (List (List Char) × List Char)
  | 0, _ => none
  | bound + 1, chars => do
      if formatLimit ≤ level then none
      let (expression, rest) ← expressionPiece {} chars.length chars
      if expression.all isPadding || rest.isEmpty then none
      let converted ← skipConversion (skipSelfDocumenting rest)
      match converted with
      | '\x7d' :: others => some ([expression], others)
      | ':' :: others =>
          if others.isEmpty then
            none
          else do
            let (inner, left) ← formattedParts isRaw (level + 1) bound others
            match left with
            | '\x7d' :: behind => some (expression :: inner, behind)
            | _ => none
      | _ => none

end

/-- The token of a formatted string. -/
def formattedToken?
    (mark : StringMark)
    (body : List Char) :
    Option Token := do
  let (expressions, rest) ←
    formattedParts mark.isRaw 0 (2 * body.length + 2) body
  if rest.isEmpty then
    some (.formatted (expressions.map fun expression => '(' :: expression ++ [')']))
  else
    none

end ApiTree.Hint
