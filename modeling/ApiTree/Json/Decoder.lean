import ApiTree.Json.Message
import ApiTree.Json.Tree

namespace ApiTree.Json

/-!
# Decoders

A decoder takes the tree of a value and gives the value in the form that was
asked for, or the first fault in the order of the text.  Lists and objects may
nest up to a limit; values that are only skipped may nest without limit.
-/

/-- A decoder, given how many levels of lists and objects may still be opened. -/
abbrev Decoder (α : Type) : Type :=
  Nat → Tree → Except Fault α

/-- Opening this many levels at once is too deep. -/
def levelLimit : Nat := 128

/-- A mismatch noticed at an offset. -/
def Mismatch.at
    (cause : Mismatch)
    (offset : Nat) :
    Fault :=
  ⟨.mismatch cause, offset⟩

/-- The fault of a tree that is not of the form that was asked for. -/
def Tree.mismatch
    (expected : String) :
    Tree → Fault
  | .null _ stop => (Mismatch.invalidType .null expected).at stop
  | .bool value _ stop => (Mismatch.invalidType (.bool value) expected).at stop
  | .number (.ok value) _ stop =>
      (Mismatch.invalidType (.number value) expected).at stop
  | .number (.error fault) _ _ => fault
  | .string (.ok text) _ stop =>
      (Mismatch.invalidType (.string text) expected).at stop
  | .string (.error fault) _ _ => fault
  | .array start _ _ => (Mismatch.invalidType .sequence expected).at start
  | .object start _ _ => (Mismatch.invalidType .map expected).at start
  | .broken _ reading _ => reading

/-- Opens a list or an object: the levels left inside, unless it is too deep. -/
def openLevel
    (start : Nat) :
    Nat → Except Fault Nat
  | levels + 2 => .ok (levels + 1)
  | _ => .error ⟨.tooDeep, start + 1⟩

/-- The fault of a reader that wants another item where there is none. -/
def Ending.read : Ending → Except Fault Nat
  | .closed stop => .ok stop
  | .failed reading _ _ => .error reading

/-- The fault of a reader that skips past the end. -/
def Ending.skip : Ending → Except Fault Unit
  | .closed _ => .ok ()
  | .failed _ skipping _ => .error skipping

/-- The fault of a reader that wants the end. -/
def Ending.require : Ending → Except Fault Unit
  | .closed _ => .ok ()
  | .failed _ _ finishing => .error finishing

mutual

/-- Skips a value. -/
def Tree.skip : Tree → Except Fault Unit
  | .broken _ _ skipping => .error skipping
  | .array _ items ending => do
      Tree.skipItems items
      ending.skip
  | .object _ members ending => do
      Tree.skipMembers members
      ending.skip
  | _ => .ok ()

/-- Skips the items of a list. -/
def Tree.skipItems : List Tree → Except Fault Unit
  | [] => .ok ()
  | item :: rest => do
      item.skip
      Tree.skipItems rest

/-- Skips the members of an object, names included. -/
def Tree.skipMembers : List (Key × Tree) → Except Fault Unit
  | [] => .ok ()
  | (_, content) :: rest => do
      content.skip
      Tree.skipMembers rest

end

mutual

/-- Reads any value.  Of several members of one name the last stands. -/
def Tree.readValue
    (levels : Nat) :
    Tree → Except Fault Value
  | .null _ _ => .ok .null
  | .bool value _ _ => .ok (.bool value)
  | .number value _ _ => value.map .number
  | .string value _ _ => value.map .string
  | .array start items ending => do
      let inner ← openLevel start levels
      let values ← Tree.readValues inner items
      let _ ← ending.read
      .ok (.array values)
  | .object start members ending => do
      let inner ← openLevel start levels
      let named ← Tree.readMembers inner members
      let _ ← ending.read
      .ok (.object (sortMembers named))
  | .broken _ reading _ => .error reading

/-- Reads the items of a list. -/
def Tree.readValues
    (levels : Nat) :
    List Tree → Except Fault (List Value)
  | [] => .ok []
  | item :: rest => do
      let value ← item.readValue levels
      let values ← Tree.readValues levels rest
      .ok (value :: values)

/-- Reads the members of an object. -/
def Tree.readMembers
    (levels : Nat) :
    List (Key × Tree) → Except Fault (List (String × Value))
  | [] => .ok []
  | (key, content) :: rest => do
      let name ← key.name
      let value ← content.readValue levels
      let values ← Tree.readMembers levels rest
      .ok ((name, value) :: values)

end

namespace Decoder

/-- Any value. -/
def value : Decoder Value :=
  fun levels tree => tree.readValue levels

/-- A text, under the name that messages give the expectation. -/
def textAs (expected : String) : Decoder String :=
  fun _ tree =>
    match tree with
    | .string value _ _ => value
    | other => .error (other.mismatch expected)

/-- A text. -/
def text : Decoder String :=
  textAs "a string"

/-- A natural number up to a bound, under the name that messages give it. -/
def natUpTo
    (bound : Nat)
    (expected : String) :
    Decoder Nat :=
  fun _ tree =>
    match tree with
    | .number (.ok (.integer value)) _ stop =>
        if 0 ≤ value ∧ value.toNat ≤ bound then
          .ok value.toNat
        else
          .error ((Mismatch.invalidValue (.number (.integer value)) expected).at stop)
    | other => .error (other.mismatch expected)

/-- A value, or nothing for null. -/
def optional
    {α : Type}
    (inner : Decoder α) :
    Decoder (Option α) :=
  fun levels tree =>
    match tree with
    | .null _ _ => .ok none
    | other => (inner levels other).map some

/-- A value, or a given one for null. -/
def orDefault
    {α : Type}
    (default : α)
    (inner : Decoder α) :
    Decoder α :=
  fun levels tree => (optional inner levels tree).map (·.getD default)

/-- Decodes each tree of a list. -/
def each
    {α : Type}
    (item : Tree → Except Fault α) :
    List Tree → Except Fault (List α)
  | [] => .ok []
  | tree :: rest => do
      let first ← item tree
      let others ← each item rest
      .ok (first :: others)

/-- A list. -/
def list
    {α : Type}
    (item : Decoder α) :
    Decoder (List α) :=
  fun levels tree =>
    match tree with
    | .array start items ending => do
        let inner ← openLevel start levels
        let values ← each (item inner) items
        let _ ← ending.read
        .ok values
    | other => .error (other.mismatch "a sequence")

/-- Decodes each member of an object. -/
def eachMember
    {α : Type}
    (content : Tree → Except Fault α) :
    List (Key × Tree) → Except Fault (List (String × α))
  | [] => .ok []
  | (key, tree) :: rest => do
      let name ← key.name
      let first ← content tree
      let others ← eachMember content rest
      .ok ((name, first) :: others)

/-- An object of any names, sorted; of several members of one name the last stands. -/
def map
    {α : Type}
    (content : Decoder α) :
    Decoder (List (String × α)) :=
  fun levels tree =>
    match tree with
    | .object start members ending => do
        let inner ← openLevel start levels
        let named ← eachMember (content inner) members
        let _ ← ending.read
        .ok (sortMembers named)
    | other => .error (other.mismatch "a map")

end Decoder

/-- A field of a record: its name and how its value changes the record. -/
structure RecordField (σ : Type) where
  name : String
  required : Bool
  read : Decoder (σ → σ)

/--
A record of fields.  It is written as an object or as the list of its fields in
order; fields that are not required may be left out, in a list at its end.
-/
structure Record (σ : Type) where
  /-- How messages name the record. -/
  name : String
  fields : List (RecordField σ)
  /-- The record of which every field is left out. -/
  initial : σ
  /-- Whether members that are no fields are skipped. -/
  skipsUnknown : Bool

namespace Record

/-- Decodes the members of an object into a record, noting which fields came. -/
def readMembers
    {σ : Type}
    (record : Record σ)
    (levels : Nat)
    (seen : List String)
    (state : σ) :
    List (Key × Tree) → Except Fault (List String × σ)
  | [] => .ok (seen, state)
  | (key, tree) :: rest => do
      let name ← key.name
      match record.fields.find? (·.name == name) with
      | none =>
          if record.skipsUnknown then
            tree.skip
            readMembers record levels seen state rest
          else
            .error ((Mismatch.unknownField name (record.fields.map (·.name))).at
              key.next)
      | some field =>
          if seen.contains name then
            .error ((Mismatch.duplicateField name).at key.next)
          else
            let update ← field.read levels tree
            readMembers record levels (name :: seen) (update state) rest

/-- How messages name the record in its list form. -/
def lengthText
    {σ : Type}
    (record : Record σ) :
    String :=
  record.name ++ " with " ++ toString record.fields.length ++
    (if record.fields.length = 1 then " element" else " elements")

/-- Decodes the items of a list into the fields of a record, in order. -/
def readItems
    {σ : Type}
    (record : Record σ)
    (levels : Nat)
    (ending : Ending)
    (count : Nat)
    (state : σ) :
    List (RecordField σ) → List Tree → Except Fault σ
  | [], [] => do
      ending.require
      .ok state
  | [], extra :: _ => .error ⟨.trailingCharacters, extra.start + 1⟩
  | field :: fields, [] => do
      let stop ← ending.read
      if field.required then
        .error ((Mismatch.invalidLength count record.lengthText).at stop)
      else
        readItems record levels ending (count + 1) state fields []
  | field :: fields, tree :: trees => do
      let update ← field.read levels tree
      readItems record levels ending (count + 1) (update state) fields trees

/-- The first required field that did not come. -/
def missing?
    {σ : Type}
    (record : Record σ)
    (seen : List String) :
    Option String :=
  (record.fields.find? fun field =>
    field.required && !seen.contains field.name).map (·.name)

/-- The decoder of a record. -/
def decoder
    {σ : Type}
    (record : Record σ) :
    Decoder σ :=
  fun levels tree =>
    match tree with
    | .object start members ending => do
        let inner ← openLevel start levels
        let (seen, state) ← record.readMembers inner [] record.initial members
        let stop ← ending.read
        match record.missing? seen with
        | some name => .error ((Mismatch.missingField name).at stop)
        | none => .ok state
    | .array start items ending => do
        let inner ← openLevel start levels
        record.readItems inner ending 0 record.initial record.fields items
    | other => .error (other.mismatch record.name)

end Record

/-- Decodes a whole text: one value and nothing after it. -/
def decode
    {α : Type}
    (decoder : Decoder α)
    (text : String) :
    Except Fault α := do
  let document := Document.of text
  let value ← decoder levelLimit document.tree
  match document.trailing with
  | some fault => .error fault
  | none => .ok value

end ApiTree.Json
