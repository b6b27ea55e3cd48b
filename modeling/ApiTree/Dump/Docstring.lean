import ApiTree.Json.Decoder
import ApiTree.Text.Blank

namespace ApiTree.Dump

open ApiTree.Json (Decoder RecordField Record Tree Value insertMember)
open ApiTree.Text (trim)

/-!
# Docstrings

A docstring is either plain text or a small JSON document: a list of texts and
of sections, each section a title with items.  The texts form the summary.  The
items of argument sections describe parameters, those of return sections what
is returned.  Text that is not such a document is a summary by itself.
-/

/-- The title of sections that describe parameters. -/
def argumentsTitle : String := "Arguments"

/-- The title of sections that describe what is returned. -/
def returnsTitle : String := "Returns"

/-- A titled section with its items as they came. -/
structure Section where
  title : String
  items : List Value
  deriving Repr

/-- A docstring taken apart. -/
structure Docstring where
  text : String := ""
  /-- The description of each parameter, sorted by name. -/
  parameters : List (String × String) := []
  returns : Option String := none
  sections : List Section := []
  deriving Repr

/-- One part of a document. -/
inductive DocPart where
  | text (content : String)
  | sections (found : List Section)
  deriving Repr

namespace DocPart

/-- The decoder of a part: a text, or an object of titles and lists of items. -/
def decoder : Decoder DocPart :=
  fun levels tree =>
    match tree with
    | .string _ _ _ => (Decoder.text levels tree).map .text
    | other =>
        (Decoder.map (Decoder.list Decoder.value) levels other).map fun titled =>
          .sections (titled.map fun entry => ⟨entry.1, entry.2⟩)

/-- The text of a part without outer white space, if there is any left. -/
def summary? : DocPart → Option String
  | .text content =>
      let trimmed := trim content
      if trimmed.isEmpty then none else some trimmed
  | .sections _ => none

/-- The sections of a part. -/
def sectionList : DocPart → List Section
  | .text _ => []
  | .sections found => found

/-- The record of a document, of which the list of parts is kept. -/
def documentRecord : Record (List DocPart) :=
  { name := "struct StructuredDocstring"
    fields :=
      [ { name := "content"
          required := true
          read := fun levels tree =>
            (Decoder.list decoder levels tree).map fun parts _ => parts } ]
    initial := []
    skipsUnknown := true }

end DocPart

/-- The parameter and its description that an item holds, if it holds both. -/
def parameterItem? (item : Value) : Option (String × String) :=
  match (item.member? "param").bind (·.asString?),
      (item.member? "desc").bind (·.asString?) with
  | some name, some description => some (name, description)
  | _, _ => none

/-- The text of an item: a string as it is, or a description with its name in front. -/
def itemText? (item : Value) : Option String :=
  match item with
  | .string text => some text
  | .object _ =>
      ((item.member? "desc").bind (·.asString?)).map fun description =>
        match (item.member? "param").bind (·.asString?) with
        | some name => name ++ ": " ++ description
        | none => description
  | _ => none

namespace Docstring

/-- The items of all sections of a title, in order. -/
def itemsTitled
    (title : String)
    (sections : List Section) :
    List Value :=
  (sections.filter (·.title == title)).flatMap (·.items)

/-- The descriptions of parameters; of several for one parameter the last stands. -/
def collectParameters (sections : List Section) : List (String × String) :=
  ((itemsTitled argumentsTitle sections).filterMap parameterItem?).foldl
    (fun known entry => insertMember entry.1 entry.2 known)
    []

/-- The description of what is returned: one line for each item that has a text. -/
def collectReturns (sections : List Section) : Option String :=
  match (itemsTitled returnsTitle sections).filterMap itemText? with
  | [] => none
  | texts => some (String.intercalate "\n" texts)

/-- The docstring of a document. -/
def ofParts (parts : List DocPart) : Docstring :=
  let sections := parts.flatMap (·.sectionList)
  { text := String.intercalate "\n\n" (parts.filterMap (·.summary?))
    parameters := collectParameters sections
    returns := collectReturns sections
    sections := sections }

/-- Takes a docstring apart. -/
def parse (raw : String) : Docstring :=
  match Json.decode DocPart.documentRecord.decoder raw with
  | .ok parts => ofParts parts
  | .error _ => { text := trim raw }

/-- Whether there is no summary. -/
def isEmpty (docstring : Docstring) : Bool :=
  docstring.text.isEmpty

/-- The description of a parameter. -/
def parameter?
    (docstring : Docstring)
    (name : String) :
    Option String :=
  docstring.parameters.lookup name

end Docstring

end ApiTree.Dump
