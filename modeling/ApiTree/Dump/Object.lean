import ApiTree.Decl.Grouping
import ApiTree.Json.Decoder
import ApiTree.Json.Printer

namespace ApiTree.Dump

open ApiTree.Decl (Decorator Kind literalOf?)
open ApiTree.Json (Decoder RecordField Record Value)

/-!
# Scanned objects

A dump holds what a scanner found in the modules of a library: one object for
each module, class, function and variable, with its members.  Only what the
conversion reads is kept.
-/

/-- The kind tag of modules. -/
def moduleTag : String := "module"

/-- The decorator that hides an object; its members move up to its owner. -/
def hideDecorator : String := "ignore_docs"

/-- The decorator that gives an object another name. -/
def renameDecorator : String := "docs_name"

/-- The decorator of an alternative signature. -/
def overloadDecorator : String := "overload"

/-- The decorators that turn a function into a property. -/
def propertyDecorators : List String :=
  ["property", "dualproperty"]

/-- The type of a variable that is a type alias. -/
def aliasType : String := "TypeAlias"

/-- An argument of a function. -/
structure Argument where
  name : String := ""
  /-- How the argument is passed. -/
  mode : String := ""
  type : Option String := none
  defaultValue : Option String := none
  deriving Repr, DecidableEq, Inhabited

/-- Where an object was found. -/
structure Location where
  file : String := ""
  line : Nat := 0
  deriving Repr, DecidableEq, Inhabited

/-- All of an object but its members. -/
structure Facts where
  name : String := ""
  tag : String := ""
  location : Location := {}
  decorators : List Decorator := []
  bases : List String := []
  type : Option String := none
  returnType : Option String := none
  value : Option Value := none
  docstring : Option String := none
  modifiers : List String := []
  arguments : List Argument := []
  deriving Repr, Inhabited

/-- An object with its members. -/
inductive ApiObject where
  | mk (facts : Facts) (members : List ApiObject)
  deriving Repr, Inhabited

namespace Argument

/-- Whether the argument is passed by name only. -/
def isKeywordOnly (argument : Argument) : Bool :=
  argument.mode == "KEYWORD_ONLY"

/-- Whether the argument is the implicit receiver, which signatures leave out. -/
def isReceiver (argument : Argument) : Bool :=
  argument.name == "self" || argument.name == "cls"

end Argument

namespace Facts

/-- The kind of declaration that the tag stands for; modules stand for none. -/
def baseKind? (facts : Facts) : Option Kind :=
  if facts.tag = "class" then some .classDecl
  else if facts.tag = "data" then some .property
  else if facts.tag = "enum" then some .enumeration
  else if facts.tag = "enumValue" then some .enumMember
  else if facts.tag = "function" then some .method
  else none

/-- Whether a decorator of a name is attached. -/
def hasDecorator
    (facts : Facts)
    (name : String) :
    Bool :=
  facts.decorators.any (·.name == name)

/-- Whether the object is a module. -/
def isModule (facts : Facts) : Bool :=
  facts.tag == moduleTag

/-- Whether the object makes no declaration, so that its members move up. -/
def isHidden (facts : Facts) : Bool :=
  facts.baseKind?.isNone || facts.hasDecorator hideDecorator ||
    facts.name == hideDecorator

/-- Whether the object is an alternative signature. -/
def isOverload (facts : Facts) : Bool :=
  facts.hasDecorator overloadDecorator

/-- Whether a decorator makes the object a property. -/
def isProperty (facts : Facts) : Bool :=
  facts.decorators.any fun decorator =>
    propertyDecorators.contains decorator.name

/-- Whether the object is a type alias. -/
def isTypeAlias (facts : Facts) : Bool :=
  facts.tag == "data" &&
    match facts.type with
    | some type => ApiTree.Text.trim type == aliasType
    | none => false

/-- The name to show: the one a decorator gives, or the name itself. -/
def displayName (facts : Facts) : String :=
  (literalOf? renameDecorator facts.decorators).getD facts.name

/-- The text of the docstring, empty if there is none. -/
def docstringText (facts : Facts) : String :=
  facts.docstring.getD ""

/-- The value as text: a string as it is, anything else as it is written. -/
def valueText? (facts : Facts) : Option String :=
  match facts.value with
  | none => none
  | some .null => none
  | some (.string text) => some text
  | some other => some other.compact

end Facts

namespace ApiObject

/-- All but the members. -/
def facts : ApiObject → Facts
  | .mk facts _ => facts

/-- The members. -/
def members : ApiObject → List ApiObject
  | .mk _ members => members

mutual

/-- Whether an object or a decorator in the tree has a name. -/
def mentions
    (name : String) :
    ApiObject → Bool
  | .mk facts members =>
      facts.name == name || facts.hasDecorator name || anyMentions name members

/-- Whether an object or a decorator in one of several trees has a name. -/
def anyMentions
    (name : String) :
    List ApiObject → Bool
  | [] => false
  | first :: rest => first.mentions name || anyMentions name rest

end

end ApiObject

/-! ## Decoding -/

/-- A field that replaces a part of the record; null leaves it empty. -/
def nullable
    {σ α : Type}
    (name : String)
    (empty : α)
    (content : Decoder α)
    (put : α → σ → σ) :
    RecordField σ :=
  { name := name
    required := false
    read := fun levels tree =>
      (Decoder.orDefault empty content levels tree).map put }

/-- A field whose value may be absent or null. -/
def maybe
    {σ α : Type}
    (name : String)
    (content : Decoder α)
    (put : Option α → σ → σ) :
    RecordField σ :=
  { name := name
    required := false
    read := fun levels tree => (Decoder.optional content levels tree).map put }

/-- A field that has to be there. -/
def required
    {σ α : Type}
    (name : String)
    (content : Decoder α)
    (put : α → σ → σ) :
    RecordField σ :=
  { name := name
    required := true
    read := fun levels tree => (content levels tree).map put }

/-- A field that may be left out, but is not null. -/
def optionalField
    {σ α : Type}
    (name : String)
    (content : Decoder α)
    (put : α → σ → σ) :
    RecordField σ :=
  { required name content put with required := false }

/-- The largest line number. -/
def lineLimit : Nat := Nat.pow 2 32 - 1

/-- The record of a location. -/
def Location.record : Record Location :=
  { name := "struct Location"
    fields :=
      [ nullable "filename" "" Decoder.text fun file location =>
          { location with file := file },
        optionalField "lineno" (Decoder.natUpTo lineLimit "u32") fun line location =>
          { location with line := line } ]
    initial := {}
    skipsUnknown := true }

/-- The record of a docstring, of which the text is kept. -/
def docstringRecord : Record String :=
  { name := "struct RawDocstring"
    fields := [nullable "content" "" Decoder.text fun text _ => text]
    initial := ""
    skipsUnknown := true }

/-- The record of a decorator. -/
def decoratorRecord : Record Decorator :=
  { name := "struct Decoration"
    fields :=
      [ required "name" Decoder.text fun name decorator =>
          { decorator with name := name },
        maybe "args" Decoder.text fun arguments decorator =>
          { decorator with arguments := arguments } ]
    initial := ⟨"", none⟩
    skipsUnknown := true }

/-- The record of an argument. -/
def Argument.record : Record Argument :=
  { name := "struct DocspecArgument"
    fields :=
      [ required "name" Decoder.text fun name argument =>
          { argument with name := name },
        nullable "type" "" Decoder.text fun mode argument =>
          { argument with mode := mode },
        maybe "datatype" Decoder.text fun type argument =>
          { argument with type := type },
        maybe "default_value" Decoder.text fun defaultValue argument =>
          { argument with defaultValue := defaultValue } ]
    initial := {}
    skipsUnknown := true }

/-- An object whose members are still being decoded. -/
structure Draft where
  facts : Facts := {}
  members : List ApiObject := []

/-- A change of the facts of a draft. -/
def Draft.withFacts
    (change : Facts → Facts)
    (draft : Draft) :
    Draft :=
  { draft with facts := change draft.facts }

/-- The record of an object, given the decoder of a list of members. -/
def Draft.record (members : Decoder (List ApiObject)) : Record Draft :=
  { name := "struct DocspecObject"
    fields :=
      [ required "name" Decoder.text fun name =>
          Draft.withFacts fun facts => { facts with name := name },
        nullable "type" "" Decoder.text fun tag =>
          Draft.withFacts fun facts => { facts with tag := tag },
        nullable "location" {} Location.record.decoder fun location =>
          Draft.withFacts fun facts => { facts with location := location },
        nullable "members" [] members fun members draft =>
          { draft with members := members },
        nullable "decorations" [] (Decoder.list decoratorRecord.decoder)
          fun decorators =>
            Draft.withFacts fun facts => { facts with decorators := decorators },
        nullable "bases" [] (Decoder.list Decoder.text) fun bases =>
          Draft.withFacts fun facts => { facts with bases := bases },
        maybe "datatype" Decoder.text fun type =>
          Draft.withFacts fun facts => { facts with type := type },
        maybe "return_type" Decoder.text fun returnType =>
          Draft.withFacts fun facts => { facts with returnType := returnType },
        maybe "value" Decoder.value fun value =>
          Draft.withFacts fun facts => { facts with value := value },
        maybe "docstring" docstringRecord.decoder fun docstring =>
          Draft.withFacts fun facts => { facts with docstring := docstring },
        nullable "modifiers" [] (Decoder.list Decoder.text) fun modifiers =>
          Draft.withFacts fun facts => { facts with modifiers := modifiers },
        nullable "args" [] (Decoder.list Argument.record.decoder) fun arguments =>
          Draft.withFacts fun facts => { facts with arguments := arguments } ]
    initial := {}
    skipsUnknown := true }

/-- The object of a finished draft. -/
def Draft.finish (draft : Draft) : ApiObject :=
  .mk draft.facts draft.members

/--
The decoder of an object.  An object takes two levels for each object around
it: its own and that of the list it is a member of.
-/
def ApiObject.decoder : Decoder ApiObject
  | levels + 2, tree =>
      ((Draft.record fun memberLevels =>
          Decoder.list (fun _ => ApiObject.decoder levels) memberLevels).decoder
        (levels + 2) tree).map Draft.finish
  | levels, tree =>
      ((Draft.record fun _ memberTree =>
          .error (memberTree.mismatch "a sequence")).decoder levels tree).map
        Draft.finish

end ApiTree.Dump
