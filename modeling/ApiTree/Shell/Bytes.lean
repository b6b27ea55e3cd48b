namespace ApiTree.Shell

/-!
# Bytes as characters

A command script works on bytes.  A byte is kept as the character of its
number, so that texts of a script are lists of characters below 256.
-/

/-- A text of bytes. -/
abbrev Bytes : Type := List Char

/-- The bytes of a file. -/
def ofContent (content : ByteArray) : Bytes :=
  content.toList.map fun byte => Char.ofNat byte.toNat

/-- The content of a file that holds some bytes. -/
def toContent (bytes : Bytes) : ByteArray :=
  bytes.foldl (fun content byte => content.push byte.toNat.toUInt8) ByteArray.empty

/-- The bytes of a text. -/
def ofText (text : String) : Bytes :=
  ofContent text.toUTF8

/-- The text that bytes encode, if they encode one. -/
def toText? (bytes : Bytes) : Option String :=
  String.fromUTF8? (toContent bytes)

/-- The text of bytes that name something; bytes that encode nothing stand as they are. -/
def toName (bytes : Bytes) : String :=
  (toText? bytes).getD (String.ofList bytes)

/-- Whether a character separates words. -/
def isSeparator (char : Char) : Bool :=
  char == ' ' || char == '\t'

/-- Whether a character separates fields of a value. -/
def isFieldSeparator (char : Char) : Bool :=
  isSeparator char || char == '\n'

/-- Whether a character may start the name of a variable. -/
def startsName (char : Char) : Bool :=
  char.isAlpha || char == '_'

/-- Whether a character may stand in the name of a variable. -/
def inName (char : Char) : Bool :=
  char.isAlphanum || char == '_'

/-- The number that decimal digits spell. -/
def decimal? (bytes : Bytes) : Option Nat :=
  if bytes.isEmpty || !bytes.all Char.isDigit then
    none
  else
    some (bytes.foldl (fun value digit => 10 * value + (digit.toNat - 48)) 0)

/-- The lines of bytes; the last line may lack its line feed. -/
def linesOf (bytes : Bytes) : List Bytes :=
  let lines := bytes.foldr
    (fun char lines =>
      if char = '\n' then
        [] :: lines
      else
        match lines with
        | [] => [[char]]
        | first :: rest => (char :: first) :: rest)
    [[]]
  if lines.getLast? = some [] then lines.dropLast else lines

/-- The lines one after another, each with a line feed. -/
def joinLines (lines : List Bytes) : Bytes :=
  lines.flatMap fun line => line ++ ['\n']

end ApiTree.Shell
