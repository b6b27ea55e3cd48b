import ApiTree.Hint.Formatted
import ApiTree.Text.Identifier
import ApiTree.Text.Normal

namespace ApiTree.Hint

/-!
# Scanning

A text is scanned into tokens, longest first.  Line breaks count only outside
brackets.  A line that is indented outside brackets is not accepted, except
when it holds nothing but a comment.  Where scanning fails, the tokens so far
are followed by one that no expression can hold.
-/

/-- Line breaks of every kind as line feeds. -/
def unifyBreaks : List Char → List Char
  | [] => []
  | '\r' :: '\n' :: rest => '\n' :: unifyBreaks rest
  | '\r' :: rest => '\n' :: unifyBreaks rest
  | char :: rest => char :: unifyBreaks rest

/-- The token of a word. -/
def wordToken? (word : List Char) : Option Token :=
  let text := String.ofList word
  if word.all (·.toNat < 128) then
    some (if keywords.contains text then .mark text else .name text)
  else if ApiTree.Text.isIdentifier word then
    some (.name (String.ofList (ApiTree.Text.normalForm word)))
  else
    none

/-- A string literal behind its mark, starting at its quote. -/
def stringToken?
    (mark : StringMark) :
    List Char → Option (Token × List Char)
  | [] => none
  | quote :: rest => do
      let (body, others) ← stringBody quote rest
      let token ←
        if mark.isFormatted then formattedToken? mark body
        else literalToken? mark body
      some (token, others)

/-- The token at the start of characters that start with a letter. -/
def wordOrString? (chars : List Char) : Option (Token × List Char) :=
  let word := chars.takeWhile isWordPart
  let rest := chars.dropWhile isWordPart
  match stringMark? word, rest with
  | some mark, quote :: _ =>
      if isQuoteMark quote then
        stringToken? mark rest
      else
        (wordToken? word).map fun token => (token, rest)
  | _, _ => (wordToken? word).map fun token => (token, rest)

/-- The operator at the start of characters. -/
def operator? (chars : List Char) : Option (Token × List Char) :=
  (operators.find? fun mark => mark.toList.isPrefixOf chars).map fun mark =>
    (.mark mark, chars.drop mark.length)

/-- Whether characters start a numeral. -/
def startsNumeral : List Char → Bool
  | '.' :: rest => startsWithDigit 10 rest
  | chars => startsWithDigit 10 chars

/-- The token at the start of characters that are no blanks. -/
def token? (chars : List Char) : Option (Token × List Char) :=
  match chars with
  | [] => none
  | char :: _ =>
      if isWordStart char then
        wordOrString? chars
      else if startsNumeral chars then
        (numeral chars).map fun found => (.number found.1, found.2)
      else if isQuoteMark char then
        stringToken? {} chars
      else
        operator? chars

/-- The brackets that are open after a token, innermost first, if it may stand there. -/
def trackBrackets
    (expected : List String)
    (token : Token) :
    Option (List String) :=
  match token with
  | .mark mark =>
      match closer? mark with
      | some closing =>
          if bracketLimit ≤ expected.length then none else some (closing :: expected)
      | none =>
          if isCloser mark then
            match expected with
            | closing :: outer => if closing = mark then some outer else none
            | [] => none
          else
            some expected
  | _ => some expected

/-- Whether a line is indented, and the line without its indentation. -/
def indentation
    (indented continued : Bool) :
    List Char → Option (Bool × List Char)
  | ' ' :: rest => indentation true continued rest
  | '\t' :: rest => indentation true continued rest
  | '\x0c' :: rest => indentation false continued rest
  | '\\' :: '\n' :: char :: rest =>
      indentation indented (continued || indented) (char :: rest)
  | '\\' :: _ => none
  | chars => some (indented || continued, chars)

/-- What follows a comment, the line break included. -/
def dropComment (chars : List Char) : List Char :=
  chars.dropWhile (· != '\n')

/-- Whether a character separates tokens on one line. -/
def isSeparator (char : Char) : Bool :=
  char == ' ' || char == '\t' || char == '\x0c'

/--
The tokens of a text.  The arguments are a bound, the brackets that have to be
closed, whether a line starts, and what is left.
-/
def scan :
    Nat → List String → Bool → List Char → List Token
  | 0, _, _, _ => [.broken]
  | bound + 1, expected, true, chars =>
      match indentation false false chars with
      | none => [.broken]
      | some (indented, rest) =>
          match rest with
          | '#' :: _ =>
              match dropComment rest with
              | _ :: others => scan bound expected true others
              | [] => scan bound expected false []
          | '\n' :: others => scan bound expected true others
          | _ =>
              if expected.isEmpty && indented then
                [.broken]
              else
                scan bound expected false rest
  | _ + 1, expected, false, [] =>
      if expected.isEmpty then [] else [.broken]
  | bound + 1, expected, false, char :: rest =>
      if isSeparator char then
        scan bound expected false rest
      else if char = '#' then
        scan bound expected false (dropComment rest)
      else if char = '\n' then
        if expected.isEmpty then
          .newline :: scan bound expected true rest
        else
          scan bound expected true rest
      else if char = '\\' then
        match rest with
        | '\n' :: next :: others => scan bound expected false (next :: others)
        | _ => [.broken]
      else
        match token? (char :: rest) with
        | none => [.broken]
        | some (token, others) =>
            match trackBrackets expected token with
            | none => [.broken]
            | some open_ => token :: scan bound open_ false others

/-- The tokens of a text, unless it holds what no text may hold. -/
def tokens? (chars : List Char) : Option (List Token) :=
  if chars.contains '\x00' then
    none
  else
    let unified := unifyBreaks chars
    some (scan (2 * unified.length + 2) [] true unified)

end ApiTree.Hint
