import ApiTree.Json.Fault
import ApiTree.Text.Quoted

namespace ApiTree.Json

/-!
# Texts of faults

The message of a fault names its cause and, for a fault in a text, the line and
the column.  Lines count from one; the column is the number of bytes of the
line before the place.
-/

/-- What was found, for a message. -/
def Found.text : Found → String
  | .null => "null"
  | .bool true => "boolean `true`"
  | .bool false => "boolean `false`"
  | .number (.integer value) => "integer `" ++ toString value ++ "`"
  | .number (.real value) => "floating point `" ++ realLayout.format value ++ "`"
  | .string text => "string " ++ ApiTree.Text.quoted text
  | .sequence => "sequence"
  | .map => "map"

/-- The message of a mismatch. -/
def Mismatch.text : Mismatch → String
  | .invalidType found expected =>
      "invalid type: " ++ found.text ++ ", expected " ++ expected
  | .invalidValue found expected =>
      "invalid value: " ++ found.text ++ ", expected " ++ expected
  | .invalidLength length expected =>
      "invalid length " ++ toString length ++ ", expected " ++ expected
  | .missingField field => "missing field `" ++ field ++ "`"
  | .duplicateField field => "duplicate field `" ++ field ++ "`"
  | .unknownField field expected =>
      "unknown field `" ++ field ++ "`, " ++ oneOf expected
  | .unknownVariant variant expected =>
      "unknown variant `" ++ variant ++ "`, " ++ oneOf expected

/-- The message of a cause. -/
def Cause.text : Cause → String
  | .endInValue => "EOF while parsing a value"
  | .endInList => "EOF while parsing a list"
  | .endInObject => "EOF while parsing an object"
  | .endInString => "EOF while parsing a string"
  | .expectedColon => "expected `:`"
  | .expectedListSeparator => "expected `,` or `]`"
  | .expectedObjectSeparator => "expected `,` or `\x7d`"
  | .expectedWord => "expected ident"
  | .expectedValue => "expected value"
  | .invalidEscape => "invalid escape"
  | .invalidNumber => "invalid number"
  | .numberOutOfRange => "number out of range"
  | .controlCharacter =>
      "control character (\\u0000-\\u001F) found while parsing a string"
  | .keyNotString => "key must be a string"
  | .loneSurrogate => "lone leading surrogate in hex escape"
  | .trailingComma => "trailing comma"
  | .trailingCharacters => "trailing characters"
  | .endInHexEscape => "unexpected end of hex escape"
  | .tooDeep => "recursion limit exceeded"
  | .mismatch cause => cause.text

/-- A place in a text. -/
structure Position where
  line : Nat
  column : Nat
  deriving Repr, DecidableEq

/-- The place reached from a start after some bytes of the characters that follow. -/
def Position.advance
    (start : Position) :
    Nat → List Char → Position
  | _, [] => start
  | bytes, char :: rest =>
      if bytes < char.utf8Size then
        { start with column := start.column + bytes }
      else if char = '\n' then
        Position.advance ⟨start.line + 1, 0⟩ (bytes - char.utf8Size) rest
      else
        Position.advance
          { start with column := start.column + char.utf8Size }
          (bytes - char.utf8Size)
          rest

/-- The place of a byte offset in a text. -/
def Position.of
    (text : String)
    (offset : Nat) :
    Position :=
  Position.advance ⟨1, 0⟩ offset text.toList

/-- The message of a fault in a text, with its place. -/
def Fault.textIn
    (text : String)
    (fault : Fault) :
    String :=
  let position := Position.of text fault.offset
  fault.cause.text ++ " at line " ++ toString position.line ++
    " column " ++ toString position.column

end ApiTree.Json
