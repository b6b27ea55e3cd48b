import ApiTree.Decl.Grouping
import ApiTree.Json.Printer

namespace ApiTree.Decl

open ApiTree.Json (Value)

/-!
# Written declarations

The written form of a declaration is an object whose members have a fixed
order.  What is absent or empty is left out, the flags excepted.
-/

/-- A member that is written only when its list is not empty. -/
def listMember
    (name : String)
    (items : List Value) :
    List (String × Value) :=
  if items.isEmpty then [] else [(name, .array items)]

/-- A member that is written only when it is there. -/
def optionalMember
    (name : String) :
    Option Value → List (String × Value)
  | some content => [(name, content)]
  | none => []

/-- The written form of a decorator. -/
def Decorator.json (decorator : Decorator) : Value :=
  .object
    ([("name", .string decorator.name)] ++
      optionalMember "args" (decorator.arguments.map .string))

/-- The written form of a piece of text. -/
def TextPart.json (part : TextPart) : Value :=
  .object [("kind", .string part.kind), ("text", .string part.text)]

/-- The written form of a tagged block. -/
def BlockTag.json (block : BlockTag) : Value :=
  .object
    [("tag", .string block.tag), ("content", .array (block.content.map (·.json)))]

/-- The written form of a comment. -/
def Comment.json (comment : Comment) : Value :=
  .object
    ([("summary", .array (comment.summary.map (·.json)))] ++
      listMember "blockTags" (comment.blockTags.map (·.json)))

/-- The written form of a place. -/
def SourceSpot.json (spot : SourceSpot) : Value :=
  .object
    [("fileName", .string spot.file), ("line", .ofNat spot.line),
      ("character", .ofNat spot.column)]

/-- The written form of a link. -/
def Link.json (link : Link) : Value :=
  .object
    ([("type", .string "reference"), ("name", .string link.name)] ++
      optionalMember "target" (link.target.map .ofNat))

/-- The written form of a group. -/
def Group.json (group : Group) : Value :=
  .object
    [("title", .string group.title),
      ("children", .array (group.entries.map .ofNat))]

/-- The written form of the flags: the ones that are set. -/
def Info.flagsJson (info : Info) : Value :=
  .object
    ((if info.isOptional then [("isOptional", .bool true)] else []) ++
      (if info.isKeywordOnly then [("keyword-only", .bool true)] else []))

/-- The members that stand before the owned declarations. -/
def Info.leadingMembers (info : Info) : List (String × Value) :=
  [("id", .ofNat info.id), ("name", .string info.name),
    ("kind", .ofNat info.kind.code), ("kindString", .string info.kind.label),
    ("flags", info.flagsJson)] ++
  optionalMember "comment" (info.comment.map (·.json)) ++
  listMember "decorations" (info.decorators.map (·.json)) ++
  listMember "modifiers" (info.modifiers.map .string) ++
  optionalMember "module" (info.moduleLabel.map .string) ++
  listMember "sources" (info.sources.map (·.json)) ++
  optionalMember "type" (info.type.map (·.json)) ++
  optionalMember "defaultValue" (info.defaultValue.map .string)

/-- The members that stand after the owned declarations. -/
def Info.trailingMembers (info : Info) : List (String × Value) :=
  listMember "extendedTypes" (info.extendedTypes.map (·.json)) ++
  listMember "extendedBy" (info.extendedBy.map (·.json)) ++
  optionalMember "inheritedFrom" (info.inheritedFrom.map (·.json))

namespace Declaration

mutual

/-- The members of the written form of a declaration. -/
def jsonMembers : Declaration → List (String × Value)
  | .node info children signatures parameters =>
      info.leadingMembers ++
      listMember "children" (jsonOfAll children) ++
      listMember "groups" (info.groups.map (·.json)) ++
      listMember "signatures" (jsonOfAll signatures) ++
      listMember "parameters" (jsonOfAll parameters) ++
      info.trailingMembers

/-- The written forms of several declarations. -/
def jsonOfAll : List Declaration → List Value
  | [] => []
  | first :: rest => .object first.jsonMembers :: jsonOfAll rest

end

/-- The written form of a declaration. -/
def json (declaration : Declaration) : Value :=
  .object declaration.jsonMembers

end Declaration

/-- What is known of a written number: a name and the file it comes from. -/
structure Symbol where
  name : String
  file : String
  deriving Repr, DecidableEq

/-- Symbols by number, in the order of the numbers. -/
abbrev SymbolTable : Type := List (DeclId × Symbol)

/-- The written form of a symbol. -/
def Symbol.json (symbol : Symbol) : Value :=
  .object
    [("qualifiedName", .string symbol.name),
      ("sourceFileName", .string symbol.file)]

namespace SymbolTable

/-- Enters a symbol; one of the same number is replaced. -/
def record
    (id : DeclId)
    (symbol : Symbol) :
    SymbolTable → SymbolTable
  | [] => [(id, symbol)]
  | (firstId, firstSymbol) :: rest =>
      if id < firstId then
        (id, symbol) :: (firstId, firstSymbol) :: rest
      else if id = firstId then
        (id, symbol) :: rest
      else
        (firstId, firstSymbol) :: record id symbol rest

/-- The written form of a table. -/
def json (table : SymbolTable) : Value :=
  .object (table.map fun entry => (toString entry.1, entry.2.json))

end SymbolTable

/-- A converted project: its root declaration and its symbols. -/
structure Project where
  root : Declaration
  symbols : SymbolTable
  deriving Repr

namespace Project

/-- The number of declarations, the root included. -/
def nodeCount (project : Project) : Nat :=
  project.root.nodes.length

/-- The written form of a project: its root with the symbols as the last member. -/
def json (project : Project) : Value :=
  .object (project.root.jsonMembers ++ [("symbolIdMap", project.symbols.json)])

end Project

end ApiTree.Decl
