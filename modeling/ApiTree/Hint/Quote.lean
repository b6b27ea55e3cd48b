import ApiTree.Hint.Numeral
import ApiTree.Text.CharacterName

namespace ApiTree.Hint

/-!
# String literals

A string literal has a mark of a few letters, quotes, and a body.  Bodies in
single quotes stay on one line.  Unless the mark says that the body is raw, a
backslash in it starts an escape; escapes that are not known stand for
themselves.
-/

/-- What the mark of a literal says about its body. -/
structure StringMark where
  isBytes : Bool := false
  isRaw : Bool := false
  isFormatted : Bool := false
  deriving Repr, DecidableEq

/-- The mark that letters in front of a quote are, if they are one. -/
def stringMark? (letters : List Char) : Option StringMark :=
  let small := letters.map Char.toLower
  if small = [] ∨ small = ['u'] then some {}
  else if small = ['b'] then some { isBytes := true }
  else if small = ['r'] then some { isRaw := true }
  else if small = ['f'] then some { isFormatted := true }
  else if small = ['b', 'r'] ∨ small = ['r', 'b'] then
    some { isBytes := true, isRaw := true }
  else if small = ['f', 'r'] ∨ small = ['r', 'f'] then
    some { isFormatted := true, isRaw := true }
  else none

/-- Whether a character opens a string. -/
def isQuoteMark (char : Char) : Bool :=
  char == '"' || char == '\''

/-- The body up to the closing quote, on one line, and what follows. -/
def lineBody
    (quote : Char) :
    List Char → Option (List Char × List Char)
  | [] => none
  | '\\' :: char :: rest =>
      (lineBody quote rest).map fun body => ('\\' :: char :: body.1, body.2)
  | char :: rest =>
      if char = quote then
        some ([], rest)
      else if char = '\n' ∨ char = '\\' then
        none
      else
        (lineBody quote rest).map fun body => (char :: body.1, body.2)

/-- The body up to three closing quotes and what follows. -/
def blockBody
    (quote : Char) :
    List Char → Option (List Char × List Char)
  | [] => none
  | '\\' :: char :: rest =>
      (blockBody quote rest).map fun body => ('\\' :: char :: body.1, body.2)
  | char :: rest =>
      match rest with
      | second :: third :: others =>
          if char = quote ∧ second = quote ∧ third = quote then
            some ([], others)
          else
            (blockBody quote rest).map fun body => (char :: body.1, body.2)
      | _ => none

/-- The body of a string that starts behind its first quote. -/
def stringBody
    (quote : Char)
    (chars : List Char) :
    Option (List Char × List Char) :=
  match chars with
  | first :: second :: rest =>
      if first = quote ∧ second = quote then
        blockBody quote rest
      else
        lineBody quote chars
  | _ => lineBody quote chars

/-- The value of exactly so many hexadecimal digits, and what follows them. -/
def hexValue? : Nat → List Char → Option (Nat × List Char)
  | 0, chars => some (0, chars)
  | _ + 1, [] => none
  | count + 1, char :: rest =>
      match digitValue? 16 char with
      | none => none
      | some value =>
          (hexValue? count rest).map fun found =>
            (value * (Nat.pow 16 count) + found.1, found.2)

/-- The digits of an octal escape, at most so many. -/
def octalValue : Nat → Nat → List Char → Nat × List Char
  | 0, value, chars => (value, chars)
  | _ + 1, value, [] => (value, [])
  | count + 1, value, char :: rest =>
      match digitValue? 8 char with
      | some digit => octalValue count (value * 8 + digit) rest
      | none => (value, char :: rest)

/-- The character of an escape of one letter. -/
def simpleEscape? (char : Char) : Option Nat :=
  if char = '\\' ∨ char = '\'' ∨ char = '"' then some char.toNat
  else if char = 'a' then some 7
  else if char = 'b' then some 8
  else if char = 't' then some 9
  else if char = 'n' then some 10
  else if char = 'v' then some 11
  else if char = 'f' then some 12
  else if char = 'r' then some 13
  else none

/-- The code points lie below this number. -/
def pointLimit : Nat := 0x110000

/-- How many hexadecimal digits follow the letter of an escape. -/
def hexEscapeLength? (char : Char) : Option Nat :=
  if char = 'x' then some 2
  else if char = 'u' then some 4
  else if char = 'U' then some 8
  else none

/-- The name between braces at the start of characters, and what follows it. -/
def bracedName? : List Char → Option (List Char × List Char)
  | '\x7b' :: rest =>
      let name := rest.takeWhile (· != '\x7d')
      match rest.dropWhile (· != '\x7d') with
      | _ :: others => some (name, others)
      | [] => none
  | _ => none

/--
The code points of an escape and what follows it.  The argument is what follows
the backslash; a backslash that nothing follows stands for itself.
-/
def escapeAt? : List Char → Option (List Nat × List Char)
  | [] => some (['\\'.toNat], [])
  | char :: rest =>
      if char = '\n' then
        some ([], rest)
      else if let some point := simpleEscape? char then
        some ([point], rest)
      else if (digitValue? 8 char).isSome then
        let (value, others) := octalValue 3 0 (char :: rest)
        some ([value], others)
      else if let some length := hexEscapeLength? char then do
        let (value, others) ← hexValue? length rest
        if value < pointLimit then some ([value], others) else none
      else if char = 'N' then do
        let (name, others) ← bracedName? rest
        let point ← ApiTree.Text.namedCharacter? name
        some ([point], others)
      else
        some (['\\'.toNat, char.toNat], rest)

/-- The code points of a body with escapes; the bound is the length of the body. -/
def unescape : Nat → List Char → Option (List Nat)
  | _, [] => some []
  | 0, _ => none
  | bound + 1, '\\' :: rest => do
      let (points, others) ← escapeAt? rest
      let later ← unescape bound others
      some (points ++ later)
  | bound + 1, char :: rest =>
      (unescape bound rest).map (char.toNat :: ·)

/-- Whether the escapes in the body of a byte string are complete. -/
def checkByteEscapes : List Char → Bool
  | [] => true
  | '\\' :: char :: rest =>
      (char != 'x' || (hexValue? 2 rest).isSome) && checkByteEscapes rest
  | _ :: rest => checkByteEscapes rest

/-- The token of a literal that is not formatted. -/
def literalToken?
    (mark : StringMark)
    (body : List Char) :
    Option Token :=
  if mark.isBytes then
    if body.all (·.toNat < 128) && (mark.isRaw || checkByteEscapes body) then
      some .bytes
    else
      none
  else if mark.isRaw then
    some (.text (body.map (·.toNat)))
  else
    (unescape body.length body).map .text

end ApiTree.Hint
