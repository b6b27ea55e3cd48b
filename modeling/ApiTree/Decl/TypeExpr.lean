import ApiTree.Json.Decoder

namespace ApiTree.Decl

open ApiTree.Json (Value Mismatch Found)

/-!
# Type expressions of declarations

A type expression starts as a bare name with a slot, the placeholder of an
expression that is still to be resolved.  Resolved, it is a structure of
names, literals, unions and tuples.  A name may point at a declaration.
-/

/-- The number of a declaration. -/
abbrev DeclId : Type := Nat

/-- A type expression. -/
inductive TypeExpr where
  /-- A name, the declaration it points at, its arguments, and its slot. -/
  | named
      (name : String)
      (target : Option DeclId)
      (arguments : List TypeExpr)
      (slot : Option Nat)
  | literal (value : Value)
  | union (members : List TypeExpr)
  | tuple (elements : List TypeExpr)
  deriving Repr, Inhabited

namespace TypeExpr

/-- A bare name. -/
def ofName (name : String) : TypeExpr :=
  .named name none [] none

/-- A bare name that waits in a slot. -/
def placeholder
    (name : String)
    (slot : Nat) :
    TypeExpr :=
  .named name none [] (some slot)

/-- The name at the top of an expression. -/
def name? : TypeExpr → Option String
  | .named name _ _ _ => some name
  | _ => none

/-- The declaration that the name at the top points at. -/
def target? : TypeExpr → Option DeclId
  | .named _ target _ _ => target
  | _ => none

/-- The slot of a placeholder. -/
def slot? : TypeExpr → Option Nat
  | .named _ _ _ slot => slot
  | _ => none

mutual

/-- Every name in an expression with its target: first the name, then its arguments. -/
def references : TypeExpr → List (String × Option DeclId)
  | .named name target arguments _ => (name, target) :: referencesOfAll arguments
  | .literal _ => []
  | .union members => referencesOfAll members
  | .tuple elements => referencesOfAll elements

/-- The names in each of several expressions, in order. -/
def referencesOfAll : List TypeExpr → List (String × Option DeclId)
  | [] => []
  | first :: rest => first.references ++ referencesOfAll rest

end

mutual

/-- Points every name that a table knows at its declaration. -/
def retarget
    (lookup : String → Option DeclId) :
    TypeExpr → TypeExpr
  | .named name target arguments slot =>
      .named name (lookup name <|> target) (retargetAll lookup arguments) slot
  | .literal value => .literal value
  | .union members => .union (retargetAll lookup members)
  | .tuple elements => .tuple (retargetAll lookup elements)

/-- Points the names in each of several expressions. -/
def retargetAll
    (lookup : String → Option DeclId) :
    List TypeExpr → List TypeExpr
  | [] => []
  | first :: rest => first.retarget lookup :: retargetAll lookup rest

end

mutual

/--
The written form: an object whose member `type` names the variant.  Slots are
not written, targets and arguments only when there are any.
-/
def json : TypeExpr → Value
  | .named name target arguments _ =>
      .object
        ([("type", .string "reference"), ("name", .string name)] ++
          (match target with
            | some id => [("target", .ofNat id)]
            | none => []) ++
          (match arguments with
            | [] => []
            | first :: rest =>
                [("typeArguments", .array (jsonOfAll (first :: rest)))]))
  | .literal value => .object [("type", .string "literal"), ("value", value)]
  | .union members =>
      .object [("type", .string "union"), ("types", .array (jsonOfAll members))]
  | .tuple elements =>
      .object
        [("type", .string "tuple"), ("elements", .array (jsonOfAll elements))]

/-- The written forms of several expressions. -/
def jsonOfAll : List TypeExpr → List Value
  | [] => []
  | first :: rest => first.json :: jsonOfAll rest

end

/-- The variants of an expression. -/
inductive Variant where
  | named
  | literal
  | union
  | tuple
  deriving Repr, DecidableEq

/-- How a variant is written, in the order of the variants. -/
def variantNames : List String :=
  ["reference", "literal", "union", "tuple"]

/-- The variant of a written name. -/
def Variant.ofName? (name : String) : Option Variant :=
  if name = "reference" then some .named
  else if name = "literal" then some .literal
  else if name = "union" then some .union
  else if name = "tuple" then some .tuple
  else none

/-- The variant of a position among the variants. -/
def Variant.ofIndex? (index : Nat) : Option Variant :=
  match index with
  | 0 => some .named
  | 1 => some .literal
  | 2 => some .union
  | 3 => some .tuple
  | _ => none

/-- What a value is, for a message. -/
def found : Value → Found
  | .null => .null
  | .bool value => .bool value
  | .number value => .number value
  | .string text => .string text
  | .array _ => .sequence
  | .object _ => .map

/-- The mismatch of a value that is not of the form that was asked for. -/
def mismatch
    (value : Value)
    (expected : String) :
    Mismatch :=
  .invalidType (found value) expected

/--
The variant that a tag names.  Below the outermost expression a tag may also be
the position of the variant.
-/
def readTag
    (nested : Bool)
    (tag : Value) :
    Except Mismatch Variant :=
  match tag with
  | .string name =>
      match Variant.ofName? name with
      | some variant => .ok variant
      | none => .error (.unknownVariant name variantNames)
  | .number (.integer index) =>
      if nested ∧ 0 ≤ index then
        match Variant.ofIndex? index.toNat with
        | some variant => .ok variant
        | none =>
            .error
              (.invalidValue (.number (.integer index)) "variant index 0 <= i < 4")
      else
        .error (mismatch tag "variant identifier")
  | other => .error (mismatch other "variant identifier")

/-- A text. -/
def readText : Value → Except Mismatch String
  | .string text => .ok text
  | other => .error (mismatch other "a string")

/-- The largest number of a declaration that can be written. -/
def idLimit : Nat := Nat.pow 2 32 - 1

/-- The number of a declaration, or nothing for null. -/
def readTarget : Value → Except Mismatch (Option DeclId)
  | .null => .ok none
  | .number (.integer value) =>
      if 0 ≤ value ∧ value.toNat ≤ idLimit then
        .ok (some value.toNat)
      else
        .error (.invalidValue (.number (.integer value)) "u32")
  | other => .error (mismatch other "u32")

/-- Reads a member of an object if it is there. -/
def readMember?
    {α : Type}
    (read : Value → Except Mismatch α)
    (name : String)
    (members : List (String × Value)) :
    Except Mismatch (Option α) :=
  match members.lookup name with
  | some content => (read content).map some
  | none => .ok none

/-- A value that has to be there. -/
def require
    {α : Type}
    (name : String) :
    Option α → Except Mismatch α
  | some content => .ok content
  | none => .error (.missingField name)

/-- How messages count elements. -/
def elementCount (count : Nat) : String :=
  toString count ++ (if count = 1 then " element" else " elements")

/-- The mismatch of a list form that is too short for a variant. -/
def tooShort
    (variant : String)
    (count : Nat)
    (length : Nat) :
    Mismatch :=
  .invalidLength length
    ("struct variant TypeRef::" ++ variant ++ " with " ++ elementCount count)

/-- Accepts a list form that has no more elements than the variant. -/
def checkLength
    (count : Nat)
    (items : List Value) :
    Except Mismatch Unit :=
  if items.length ≤ count then
    .ok ()
  else
    .error (.invalidLength items.length (elementCount count ++ " in sequence"))

/-- What messages call an expression. -/
def expectedTag : String :=
  "internally tagged enum TypeRef"

mutual

/--
Reads an expression from its written form, or from the list of its tag and its
fields in order.  Members that are no fields are skipped.
-/
def readAt
    (nested : Bool) :
    Value → Except Mismatch TypeExpr
  | .object members => do
      let tag ← require "type" (members.lookup "type")
      match ← readTag nested tag with
      | .named =>
          let name ← readMember? readText "name" members
          let target ← readMember? readTarget "target" members
          let arguments ← readListMember "typeArguments" members
          let name ← require "name" name
          .ok (.named name (target.getD none) (arguments.getD []) none)
      | .literal => do
          let value ← require "value" (members.lookup "value")
          .ok (.literal value)
      | .union => do
          let types ← readListMember "types" members
          let types ← require "types" types
          .ok (.union types)
      | .tuple => do
          let elements ← readListMember "elements" members
          .ok (.tuple (elements.getD []))
  | .array [] => .error (.missingField "type")
  | .array (tag :: items) => do
      match ← readTag nested tag with
      | .named =>
          match items with
          | [] => .error (tooShort "Reference" 3 0)
          | [name] => do
              let nameText ← readText name
              .ok (.ofName nameText)
          | [name, target] => do
              let nameText ← readText name
              let targetId ← readTarget target
              .ok (.named nameText targetId [] none)
          | name :: target :: arguments :: extra => do
              let nameText ← readText name
              let targetId ← readTarget target
              let expressions ← readList arguments
              checkLength 3 (name :: target :: arguments :: extra)
              .ok (.named nameText targetId expressions none)
      | .literal =>
          match items with
          | [] => .error (tooShort "Literal" 1 0)
          | value :: extra => do
              checkLength 1 (value :: extra)
              .ok (.literal value)
      | .union =>
          match items with
          | [] => .error (tooShort "Union" 1 0)
          | types :: extra => do
              let expressions ← readList types
              checkLength 1 (types :: extra)
              .ok (.union expressions)
      | .tuple =>
          match items with
          | [] => .ok (.tuple [])
          | elements :: extra => do
              let expressions ← readList elements
              checkLength 1 (elements :: extra)
              .ok (.tuple expressions)
  | other => .error (mismatch other expectedTag)

/-- Reads a list of expressions below another. -/
def readList : Value → Except Mismatch (List TypeExpr)
  | .array items => readAll items
  | other => .error (mismatch other "a sequence")

/-- Reads each of several expressions. -/
def readAll : List Value → Except Mismatch (List TypeExpr)
  | [] => .ok []
  | first :: rest => do
      let expression ← readAt true first
      let expressions ← readAll rest
      .ok (expression :: expressions)

/-- Reads the list of expressions under a name, if the member is there. -/
def readListMember
    (name : String) :
    List (String × Value) → Except Mismatch (Option (List TypeExpr))
  | [] => .ok none
  | (first, content) :: rest =>
      if first = name then do
        let expressions ← readList content
        .ok (some expressions)
      else
        readListMember name rest

end

/-- Reads an expression. -/
def read (value : Value) : Except Mismatch TypeExpr :=
  readAt false value

end TypeExpr

end ApiTree.Decl
