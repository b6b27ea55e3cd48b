namespace ApiTree.Text

/-!
# White space and lines

White space is the Unicode property `White_Space`.  Trimming removes it from
the ends of a text, and a text splits into lines at line feeds, each line
giving up one carriage return at its end.
-/

/-- The code points with the property `White_Space`, as closed ranges. -/
def blankRanges : List (Nat × Nat) :=
  [ (0x09, 0x0D), (0x20, 0x20), (0x85, 0x85), (0xA0, 0xA0), (0x1680, 0x1680),
    (0x2000, 0x200A), (0x2028, 0x2029), (0x202F, 0x202F), (0x205F, 0x205F),
    (0x3000, 0x3000) ]

/-- Whether a code point lies in one of the given closed ranges. -/
def inRanges
    (ranges : List (Nat × Nat))
    (point : Nat) :
    Bool :=
  ranges.any fun range => range.1 ≤ point && point ≤ range.2

/-- Whether a character is white space. -/
def isBlank (char : Char) : Bool :=
  inRanges blankRanges char.toNat

/-- The characters of a text without the white space they start with. -/
def dropBlanks (chars : List Char) : List Char :=
  chars.dropWhile isBlank

/-- The characters of a text without the white space at either end. -/
def trimChars (chars : List Char) : List Char :=
  (dropBlanks (dropBlanks chars).reverse).reverse

/-- A text without the white space it starts with. -/
def trimStart (text : String) : String :=
  String.ofList (dropBlanks text.toList)

/-- A text without the white space at either end. -/
def trim (text : String) : String :=
  String.ofList (trimChars text.toList)

/-- Whether a text holds nothing but white space. -/
def isAllBlank (text : String) : Bool :=
  text.toList.all isBlank

/-- The pieces of a list between the elements that a test picks out. -/
def splitChars
    (isBreak : Char → Bool) :
    List Char → List (List Char)
  | [] => [[]]
  | char :: rest =>
      if isBreak char then
        [] :: splitChars isBreak rest
      else
        match splitChars isBreak rest with
        | [] => [[char]]
        | piece :: pieces => (char :: piece) :: pieces

/-- A line without the carriage return that may end it. -/
def dropReturn (line : List Char) : List Char :=
  if line.getLast? = some '\r' then line.dropLast else line

/--
The lines of a text.  A line ends at a line feed or at the end of the text;
nothing follows a line feed that ends the text.
-/
def lineChars (chars : List Char) : List (List Char) :=
  let pieces := splitChars (· == '\n') chars
  let ended := pieces.dropLast.map dropReturn
  match pieces.getLast? with
  | none => ended
  | some [] => ended
  | some last => ended ++ [last]

/-- The lines of a text. -/
def lines (text : String) : List String :=
  (lineChars text.toList).map String.ofList

/-- Whether a list of characters starts with another. -/
def startsWith
    (chars : List Char)
    (start : List Char) :
    Bool :=
  start.isPrefixOf chars

/-- Whether a list of characters ends with another. -/
def endsWith
    (chars : List Char)
    (ending : List Char) :
    Bool :=
  ending.isSuffixOf chars

/-- What follows a given beginning of a list, if the list begins that way. -/
def dropStart?
    (start : List Char)
    (chars : List Char) :
    Option (List Char) :=
  if start.isPrefixOf chars then some (chars.drop start.length) else none

/-- What comes before a given ending of a list, if the list ends that way. -/
def dropEnd?
    (ending : List Char)
    (chars : List Char) :
    Option (List Char) :=
  if ending.isSuffixOf chars then
    some (chars.take (chars.length - ending.length))
  else
    none

/-- Whether a list occurs in another without gaps. -/
def containsChars (needle : List Char) : List Char → Bool
  | [] => needle.isEmpty
  | char :: rest =>
      needle.isPrefixOf (char :: rest) || containsChars needle rest

/-- Drops every non-overlapping occurrence of a list, from the left. -/
def eraseChars
    (needle : List Char) :
    Nat → List Char → List Char
  | _, [] => []
  | 0, char :: rest =>
      if needle.isPrefixOf (char :: rest) then
        eraseChars needle (needle.length - 1) rest
      else
        char :: eraseChars needle 0 rest
  | pending + 1, _ :: rest => eraseChars needle pending rest

/-- A text without any occurrence of another; the empty text erases nothing. -/
def erase
    (needle : String)
    (text : String) :
    String :=
  if needle.isEmpty then
    text
  else
    String.ofList (eraseChars needle.toList 0 text.toList)

end ApiTree.Text
