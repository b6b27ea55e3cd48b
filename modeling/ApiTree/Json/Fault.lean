import ApiTree.Json.Value

namespace ApiTree.Json

/-!
# Faults of a JSON text

A fault is a cause and the byte offset at which it was noticed.  Causes are of
three classes: the text ends too early, it is not JSON, or it is JSON of a form
that was not asked for.
-/

/-- What was found where a value of another form was asked for. -/
inductive Found where
  | null
  | bool (value : Bool)
  | number (value : Number)
  | string (text : String)
  | sequence
  | map
  deriving Repr, DecidableEq

/-- Why a JSON value is not of the form that was asked for. -/
inductive Mismatch where
  | invalidType (found : Found) (expected : String)
  | invalidValue (found : Found) (expected : String)
  | invalidLength (length : Nat) (expected : String)
  | missingField (field : String)
  | duplicateField (field : String)
  | unknownField (field : String) (expected : List String)
  | unknownVariant (variant : String) (expected : List String)
  deriving Repr, DecidableEq

/-- Why a text is not the JSON that was asked for. -/
inductive Cause where
  | endInValue
  | endInList
  | endInObject
  | endInString
  | expectedColon
  | expectedListSeparator
  | expectedObjectSeparator
  | expectedWord
  | expectedValue
  | invalidEscape
  | invalidNumber
  | numberOutOfRange
  | controlCharacter
  | keyNotString
  | loneSurrogate
  | trailingComma
  | trailingCharacters
  | endInHexEscape
  | tooDeep
  | mismatch (cause : Mismatch)
  deriving Repr, DecidableEq

/-- A cause and the number of bytes before the place where it was noticed. -/
structure Fault where
  cause : Cause
  offset : Nat
  deriving Repr, DecidableEq

/-- The classes of causes. -/
inductive Category where
  | malformed
  | unfinished
  | mismatched
  deriving Repr, DecidableEq

/-- The class of a cause. -/
def Cause.category : Cause → Category
  | .endInValue | .endInList | .endInObject | .endInString => .unfinished
  | .mismatch _ => .mismatched
  | _ => .malformed

/-- The alternatives of an expectation, each in back quotes. -/
def oneOf (names : List String) : String :=
  match names with
  | [] => "there are no fields"
  | [name] => "expected `" ++ name ++ "`"
  | [first, second] => "expected `" ++ first ++ "` or `" ++ second ++ "`"
  | many =>
      "expected one of " ++
        String.intercalate ", " (many.map fun name => "`" ++ name ++ "`")

end ApiTree.Json
