import ApiTree.Text.Blank
import ApiTree.Text.CharacterNameTable

namespace ApiTree.Text

/-!
# Names of characters

A character has a name, and some have others beside it.  The names of most
characters are listed; those of ideographs and of syllables of Hangul follow a
rule.
-/

/-- A letter of a name in upper case. -/
def upperChar (char : Char) : Char :=
  if 'a' ≤ char ∧ char ≤ 'z' then Char.ofNat (char.toNat - 32) else char

/-- The value of an upper-case hexadecimal digit. -/
def upperHexDigit? (char : Char) : Option Nat :=
  if '0' ≤ char ∧ char ≤ '9' then some (char.toNat - 48)
  else if 'A' ≤ char ∧ char ≤ 'F' then some (char.toNat - 55)
  else none

/-- The number that upper-case hexadecimal digits spell. -/
def upperHex? (digits : List Char) : Option Nat :=
  digits.foldlM
    (fun value digit => (upperHexDigit? digit).map fun found => 16 * value + found)
    0

/-! ## Listed names -/

/-- Cuts a text at every mark. -/
def splitAtMarks
    (mark : Char)
    (chars : List Char) :
    List (List Char) :=
  chars.foldr
    (fun char parts =>
      if char = mark then
        [] :: parts
      else
        match parts with
        | [] => [[char]]
        | first :: rest => (char :: first) :: rest)
    [[]]

/-- Where the reading of a table of names stands: the next character, and the last name. -/
structure NameReading where
  next : Nat := 0
  words : List (List Char) := []

/-- The name in an entry, and the reading after it. -/
def NameReading.read
    (reading : NameReading)
    (entry : List Char) :
    NameReading :=
  match entry with
  | '@' :: digits => { reading with next := (upperHex? digits).getD 0 }
  | shared :: rest =>
      { next := reading.next + 1
        words := reading.words.take (shared.toNat - 48) ++ splitAtMarks ' ' rest }
  | [] => reading

/-- The character that the entries of a table give a name. -/
def findName?
    (wanted : List (List Char))
    (reading : NameReading) :
    List (List Char) → Option Nat
  | [] => none
  | entry :: rest =>
      let after := reading.read entry
      if after.next = reading.next + 1 ∧ after.words = wanted then
        some reading.next
      else
        findName? wanted after rest

/-- The character that the table gives a name. -/
def listedName? (name : List Char) : Option Nat :=
  findName? (splitAtMarks ' ' name) {}
    (splitAtMarks ',' (characterNameTable.toList.filter (· != '\n')))

/-- Names beside the ones that are listed, and their characters. -/
def otherNames : List (String × Nat) :=
  [ ("NULL", 0x0), ("NUL", 0x0), ("ALERT", 0x7), ("BEL", 0x7), ("BACKSPACE", 0x8), ("BS", 0x8),
    ("CHARACTER TABULATION", 0x9), ("HORIZONTAL TABULATION", 0x9), ("HT", 0x9), ("TAB", 0x9),
    ("LINE FEED", 0xa), ("NEW LINE", 0xa), ("END OF LINE", 0xa), ("LF", 0xa), ("NL", 0xa),
    ("EOL", 0xa), ("LINE TABULATION", 0xb), ("VERTICAL TABULATION", 0xb), ("VT", 0xb),
    ("FORM FEED", 0xc), ("FF", 0xc), ("CARRIAGE RETURN", 0xd), ("CR", 0xd), ("ESCAPE", 0x1b),
    ("ESC", 0x1b), ("SP", 0x20), ("DELETE", 0x7f), ("DEL", 0x7f), ("NEXT LINE", 0x85),
    ("NEL", 0x85), ("NBSP", 0xa0), ("SHY", 0xad), ("ZWSP", 0x200b), ("ZWNJ", 0x200c),
    ("ZWJ", 0x200d), ("LRM", 0x200e), ("RLM", 0x200f), ("WJ", 0x2060),
    ("BYTE ORDER MARK", 0xfeff), ("BOM", 0xfeff), ("ZWNBSP", 0xfeff), ("ZERO WIDTH NO-,
    BREAK SPACE", 0xfeff), ("REPLACEMENT CHARACTER", 0xfffd) ]

/-! ## Names that follow a rule -/

/-- The ideographs that are named by their numbers. -/
def ideographRanges : List (Nat × Nat) :=
  [ (0x3400, 0x4dbf), (0x4e00, 0x9fff), (0x20000, 0x2a6df), (0x2a700, 0x2b738), (0x2b740,
    0x2b81d), (0x2b820, 0x2cea1), (0x2ceb0, 0x2ebe0), (0x30000, 0x3134a) ]

/-- The ideograph of a name. -/
def ideographNamed? (name : List Char) : Option Nat := do
  let digits ← dropStart? "CJK UNIFIED IDEOGRAPH-".toList name
  if digits.length = 4 ∨ digits.length = 5 then
    let point ← upperHex? digits
    if inRanges ideographRanges point then some point else none
  else
    none

/-- The first letters of syllables. -/
def leadingLetters : List String :=
  ["G", "GG", "N", "D", "DD", "R", "M", "B", "BB", "S", "SS", "", "J", "JJ", "C", "K", "T",
    "P", "H"]

/-- The vowels of syllables. -/
def vowelLetters : List String :=
  ["A", "AE", "YA", "YAE", "EO", "E", "YEO", "YE", "O", "WA", "WAE", "OE", "YO", "U", "WEO",
    "WE", "WI", "YU", "EU", "YI", "I"]

/-- The last letters of syllables. -/
def trailingLetters : List String :=
  ["", "G", "GG", "GS", "N", "NJ", "NH", "D", "L", "LG", "LM", "LB", "LS", "LT", "LP", "LH",
    "M", "B", "BS", "S", "SS", "NG", "J", "C", "K", "T", "P", "H"]

/-- The position of a text in a list. -/
def placeOf?
    (wanted : List Char)
    (texts : List String) :
    Option Nat :=
  texts.findIdx? fun text => text.toList == wanted

/-- The number of the first syllable. -/
def firstSyllable : Nat := 0xAC00

/-- The number of the syllable that three letters make, if a text spells them. -/
def syllableOf?
    (leading vowel : Nat × String)
    (text : List Char) :
    Option Nat := do
  let afterLeading ← dropStart? leading.2.toList text
  let afterVowel ← dropStart? vowel.2.toList afterLeading
  let trailing ← placeOf? afterVowel trailingLetters
  some (firstSyllable +
    (leading.1 * vowelLetters.length + vowel.1) * trailingLetters.length + trailing)

/-- The texts of a list with their positions. -/
def numbered (texts : List String) : List (Nat × String) :=
  (List.range texts.length).zip texts

/-- The syllable of a name. -/
def syllableNamed? (name : List Char) : Option Nat := do
  let text ← dropStart? "HANGUL SYLLABLE ".toList name
  (numbered leadingLetters).findSome? fun leading =>
    (numbered vowelLetters).findSome? fun vowel => syllableOf? leading vowel text

/-- The character of a name; listed names are known in any case. -/
def namedCharacter? (name : List Char) : Option Nat :=
  let upper := name.map upperChar
  syllableNamed? name <|> ideographNamed? name <|> listedName? upper <|>
    otherNames.lookup (String.ofList upper)

end ApiTree.Text
