import ApiTree.Hint.Interpreter
import ApiTree.Hint.Quote
import ApiTree.Text.Blank

namespace ApiTree.Hint

/-!
# Descriptors

A descriptor says what type an expression stands for: a reference with
arguments, a literal, a union or a tuple.  Unions do not nest.  A string inside
an expression stands for the expression it spells.  Texts and literals are the
interpreter's; how many calls a description nests depends on it as well.
-/

/-- A descriptor. -/
inductive Descriptor where
  | reference (name : String) (arguments : List Descriptor)
  | literal (value : Constant)
  | union (members : List Descriptor)
  | tuple (elements : List Descriptor)
  deriving Repr, Inhabited

/-- The names of unions. -/
def unionNames : List String :=
  ["Union", "typing.Union", "t.Union"]

/-- The names of unions with nothing. -/
def optionalNames : List String :=
  ["Optional", "typing.Optional", "t.Optional"]

/-- The names of literal types. -/
def literalNames : List String :=
  ["Literal", "typing.Literal", "t.Literal", "typing_extensions.Literal"]

namespace Descriptor

/-- What a descriptor adds to a union: the members of a union, or itself. -/
def alternatives : Descriptor → List Descriptor
  | .union members => members
  | other => [other]

/-- The union of several descriptors. -/
def unionOf (members : List Descriptor) : Descriptor :=
  .union (members.flatMap alternatives)

/-- The literal of nothing. -/
def nothing : Descriptor :=
  .literal .null

/-- The literal of a value, or the union of the literals of several. -/
def ofValues : List Constant → Descriptor
  | [value] => .literal value
  | values => unionOf (values.map .literal)

end Descriptor

/-- The white space that is dropped around an expression: also four separators among the controls. -/
def isOuterBlank (char : Char) : Bool :=
  ApiTree.Text.isBlank char || (0x1C ≤ char.toNat && char.toNat ≤ 0x1F)

/-- A text without the white space around it. -/
def stripOuter (chars : List Char) : List Char :=
  ((chars.dropWhile isOuterBlank).reverse.dropWhile isOuterBlank).reverse

/-- Whether a code point is that of a character. -/
def isScalar (point : Nat) : Bool :=
  point < 0xD800 || (0xE000 ≤ point && point < pointLimit)

section

variable [Interpreter]

/-- The expression that code points spell, read where so many calls may still be nested. -/
def parsePoints
    (room : Nat)
    (points : List Nat) :
    Except Trouble Expr :=
  if points.all isScalar then
    Interpreter.parse room (stripOuter (points.map Char.ofNat))
  else
    .error .rejected

/-- The value of a literal by itself. -/
def literalValue
    (room : Nat)
    (expr : Expr) :
    Except Trouble Constant := do
  let constant ← Interpreter.evaluate (room - 1) expr
  if constant.isUnsupported then .error .rejected else .ok constant

/--
The descriptor of an expression.  The bound is how many calls may still be
nested, this one included: an operand is one call deeper, the expression in a
string two, and an item of a list one, or two where the items are gathered in a
call.
-/
def describe : Nat → Expr → Except Trouble Descriptor
  | 0, _ => .error .rejected
  | 1, _ => .error .rejected
  | bound + 2, expr =>
      let describeItem :=
        if Interpreter.gathersInCall then describe bound else describe (bound + 1)
      match expr with
      | .constant (.text points) => do
          let inner ← parsePoints bound points
          describe bound inner
      | .constant .null => .ok .nothing
      | .constant .ellipsis => .ok (.reference "..." [])
      | .constant constant =>
          (literalValue (bound + 1) (.constant constant)).map .literal
      | .name id => .ok (.reference id [])
      | .attribute value field =>
          match Expr.dottedName? (bound + 1) (.attribute value field) with
          | some name => .ok (.reference name [])
          | none => .error .rejected
      | .binary .bitOr left right => do
          let first ← describe (bound + 1) left
          let second ← describe (bound + 1) right
          .ok (.unionOf [first, second])
      | .subscript value index =>
          match Expr.dottedName? (bound + 1) value with
          | none => .error .rejected
          | some name =>
              let items := index.subscriptItems
              if optionalNames.contains name then
                match items with
                | [] => .error .crashed
                | first :: _ => do
                    let inner ← describe (bound + 1) first
                    .ok (.unionOf [inner, .nothing])
              else if unionNames.contains name then do
                let members ← items.mapM describeItem
                .ok (.unionOf members)
              else if literalNames.contains name then do
                let values ← items.mapM (literalValue (Interpreter.itemRoom bound))
                .ok (.ofValues values)
              else do
                let arguments ← items.mapM describeItem
                .ok (.reference name arguments)
      | .list items | .tuple items => do
          let elements ← items.mapM describeItem
          .ok (.tuple elements)
      | _ => .error .rejected

/-- The descriptor of a text. -/
def descriptorOf (text : String) : Except Trouble Descriptor := do
  let expr ← parsePoints Interpreter.callLimit (pointsOf text)
  describe Interpreter.callLimit expr

end

/-! ## Responses -/

namespace Descriptor

/-- A written member of an object. -/
def writeMember
    (name content : String) :
    String :=
  writeText (pointsOf name) ++ ": " ++ content

mutual

/-- A written descriptor, unless it holds a constant that cannot be written. -/
def write? : Descriptor → Option String
  | .reference name arguments => do
      let written ← writeAll? arguments
      some (Constant.writeMembers
        ([writeMember "type" "\"reference\"",
            writeMember "name" (writeText (pointsOf name))] ++
          (if written.isEmpty then
            []
          else
            [writeMember "typeArguments" (Constant.writeItems written)])))
  | .literal value => do
      let written ← value.write?
      some (Constant.writeMembers
        [writeMember "type" "\"literal\"", writeMember "value" written])
  | .union members => do
      let written ← writeAll? members
      some (Constant.writeMembers
        [writeMember "type" "\"union\"",
          writeMember "types" (Constant.writeItems written)])
  | .tuple elements => do
      let written ← writeAll? elements
      some (Constant.writeMembers
        [writeMember "type" "\"tuple\"",
          writeMember "elements" (Constant.writeItems written)])

/-- Written descriptors. -/
def writeAll? : List Descriptor → Option (List String)
  | [] => some []
  | first :: rest => do
      let descriptor ← first.write?
      let descriptors ← writeAll? rest
      some (descriptor :: descriptors)

end

end Descriptor

/-- The descriptors of the texts that have one, each text once. -/
def describeAll
    [Interpreter]
    (seen : List String) :
    List String → Except Trouble (List (String × Descriptor))
  | [] => .ok []
  | text :: rest =>
      if seen.contains text then
        describeAll seen rest
      else
        match descriptorOf text with
        | .ok descriptor => do
            let others ← describeAll (text :: seen) rest
            .ok ((text, descriptor) :: others)
        | .error .rejected => describeAll (text :: seen) rest
        | .error .crashed => .error .crashed

/-- The text of a response. -/
def responseText? (described : List (String × Descriptor)) : Option String := do
  let members ← described.mapM fun entry => do
    let written ← entry.2.write?
    some (Descriptor.writeMember entry.1 written)
  some (Constant.writeMembers members)

/-- The response to a batch, or `none` if its evaluation stops. -/
def respond?
    [Interpreter]
    (texts : List String) :
    Option String :=
  match describeAll [] texts with
  | .ok described => responseText? described
  | .error _ => none

end ApiTree.Hint
