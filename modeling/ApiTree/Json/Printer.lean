import ApiTree.Json.Value
import ApiTree.Text.Quoted

namespace ApiTree.Json

/-!
# Written values

A value is written without spaces, or spread over lines with two spaces for
each level.  Members stand in the order they have.  Only quotes, backslashes
and the controls below the space are escaped.
-/

/-- One character of a string literal. -/
def escapeChar (char : Char) : List Char :=
  if char = '"' then ['\\', '"']
  else if char = '\\' then ['\\', '\\']
  else if char = '\x08' then ['\\', 'b']
  else if char = '\x0c' then ['\\', 'f']
  else if char = '\n' then ['\\', 'n']
  else if char = '\r' then ['\\', 'r']
  else if char = '\t' then ['\\', 't']
  else if char < ' ' then
    ['\\', 'u'] ++ ApiTree.Text.paddedHex 4 char.toNat
  else [char]

/-- A string literal. -/
def quote (text : String) : String :=
  String.ofList ('"' :: text.toList.flatMap escapeChar ++ ['"'])

mutual

/-- The text of a value without spaces. -/
def Value.compact : Value → String
  | .null => "null"
  | .bool true => "true"
  | .bool false => "false"
  | .number value => value.text
  | .string text => quote text
  | .array items => "[" ++ String.intercalate "," (Value.compactItems items) ++ "]"
  | .object members =>
      "\x7b" ++ String.intercalate "," (Value.compactMembers members) ++ "\x7d"

/-- The texts of the items of an array. -/
def Value.compactItems : List Value → List String
  | [] => []
  | item :: rest => item.compact :: Value.compactItems rest

/-- The texts of the members of an object. -/
def Value.compactMembers : List (String × Value) → List String
  | [] => []
  | (name, content) :: rest =>
      (quote name ++ ":" ++ content.compact) :: Value.compactMembers rest

end

/-- The start of a line at a level. -/
def indent (level : Nat) : String :=
  "\n" ++ String.ofList (List.replicate (2 * level) ' ')

mutual

/-- The text of a value spread over lines, from a level on. -/
def Value.prettyAt
    (level : Nat) :
    Value → String
  | .null => "null"
  | .bool true => "true"
  | .bool false => "false"
  | .number value => value.text
  | .string text => quote text
  | .array [] => "[]"
  | .array (item :: rest) =>
      "[" ++ String.intercalate "," (Value.prettyItems (level + 1) (item :: rest)) ++
        indent level ++ "]"
  | .object [] => "\x7b\x7d"
  | .object (member :: rest) =>
      "\x7b" ++
        String.intercalate "," (Value.prettyMembers (level + 1) (member :: rest)) ++
        indent level ++ "\x7d"

/-- The lines of the items of an array. -/
def Value.prettyItems
    (level : Nat) :
    List Value → List String
  | [] => []
  | item :: rest =>
      (indent level ++ item.prettyAt level) :: Value.prettyItems level rest

/-- The lines of the members of an object. -/
def Value.prettyMembers
    (level : Nat) :
    List (String × Value) → List String
  | [] => []
  | (name, content) :: rest =>
      (indent level ++ quote name ++ ": " ++ content.prettyAt level) ::
        Value.prettyMembers level rest

end

/-- The text of a value spread over lines. -/
def Value.pretty (value : Value) : String :=
  value.prettyAt 0

end ApiTree.Json
