import ApiTree.Text.Blank

namespace ApiTree.Resolve

open ApiTree.Text (dropStart? dropEnd? lineChars trimChars)

/-!
# Texts of type expressions

Type expressions come as they stand in the scanned code, with comments and line
breaks.  Base classes are compared by a shorter text, without type arguments.
-/

/-- The name of a type that is not given. -/
def undefinedType : String := "Undefined"

/-- A type expression without comments, line breaks and outer white space. -/
def cleanExpression (raw : String) : String :=
  let kept := (lineChars raw.toList).map fun line => line.takeWhile (· != '#')
  String.ofList (trimChars kept.flatten)

/-- What stands inside `Optional[...]`, or everything if that does not surround it. -/
def unwrapOptional (chars : List Char) : List Char :=
  match (dropStart? "Optional[".toList chars).bind (dropEnd? [']']) with
  | some inside => inside
  | none => chars

/-- The name of a base class: `Optional[...]` unwrapped, type arguments dropped. -/
def baseName (expression : String) : String :=
  let unwrapped := unwrapOptional (trimChars expression.toList)
  String.ofList (trimChars (unwrapped.takeWhile (· != '[')))

end ApiTree.Resolve
