import ApiTree.Number.Shortest

namespace ApiTree.Json

open ApiTree.Number (Binary64 Layout)

/-!
# Values

A JSON value keeps integers of 64 bits exact and every other number as a
binary64.  Members of an object are an association list.  A value that was read
has its members sorted by name, each name once; a value that is about to be
written keeps the order it was built in.
-/

/-- A number: an integer of 64 bits, signed or unsigned, or a binary64. -/
inductive Number where
  | integer (value : Int)
  | real (value : Binary64)
  deriving Repr, DecidableEq, Inhabited

/-- A JSON value. -/
inductive Value where
  | null
  | bool (value : Bool)
  | number (value : Number)
  | string (value : String)
  | array (items : List Value)
  | object (members : List (String × Value))
  deriving Repr, Inhabited, BEq

/-- Integers below the negative of this number are read as a binary64. -/
def negativeLimit : Nat := Nat.pow 2 63

/-- How numbers that are not integers are laid out. -/
def realLayout : Layout :=
  { leastPositional := -5
    greatestPositional := 15
    exponentDigits := 1 }

/-- The text of a number. -/
def Number.text : Number → String
  | .integer value => toString value
  | .real value => realLayout.format value

namespace Value

/-- The text of a string value. -/
def asString? : Value → Option String
  | .string text => some text
  | _ => none

/-- The items of an array. -/
def asArray? : Value → Option (List Value)
  | .array items => some items
  | _ => none

/-- The members of an object. -/
def asObject? : Value → Option (List (String × Value))
  | .object members => some members
  | _ => none

/-- The integer of a number that is one. -/
def asInteger? : Value → Option Int
  | .number (.integer value) => some value
  | _ => none

/-- The boolean of a boolean value. -/
def asBool? : Value → Option Bool
  | .bool value => some value
  | _ => none

/-- The member of an object with a given name. -/
def member?
    (name : String)
    (value : Value) :
    Option Value :=
  match value with
  | .object members => members.lookup name
  | _ => none

/-- A natural number as a value. -/
def ofNat (value : Nat) : Value :=
  .number (.integer value)

/-- A list of texts as a value. -/
def ofStrings (texts : List String) : Value :=
  .array (texts.map .string)

/-- A text, or null for none. -/
def ofString? : Option String → Value
  | some text => .string text
  | none => .null

end Value

/--
Puts a member into a list sorted by name.  A member of the same name is
replaced, so of several members the last one stands.
-/
def insertMember
    {α : Type}
    (name : String)
    (content : α) :
    List (String × α) → List (String × α)
  | [] => [(name, content)]
  | (firstName, firstContent) :: rest =>
      if name < firstName then
        (name, content) :: (firstName, firstContent) :: rest
      else if name = firstName then
        (name, content) :: rest
      else
        (firstName, firstContent) :: insertMember name content rest

/-- Sorts members by name and keeps the last of each name. -/
def sortMembers
    {α : Type}
    (members : List (String × α)) :
    List (String × α) :=
  members.foldl (fun sorted entry => insertMember entry.1 entry.2 sorted) []

mutual

/-- A value with the members of every object sorted by name. -/
def Value.sorted : Value → Value
  | .null => .null
  | .bool value => .bool value
  | .number value => .number value
  | .string text => .string text
  | .array items => .array (Value.sortedItems items)
  | .object members => .object (sortMembers (Value.sortedMembers members))

/-- Each item of an array, sorted inside. -/
def Value.sortedItems : List Value → List Value
  | [] => []
  | item :: rest => item.sorted :: Value.sortedItems rest

/-- Each member of an object, sorted inside. -/
def Value.sortedMembers : List (String × Value) → List (String × Value)
  | [] => []
  | (name, content) :: rest =>
      (name, content.sorted) :: Value.sortedMembers rest

end

end ApiTree.Json
