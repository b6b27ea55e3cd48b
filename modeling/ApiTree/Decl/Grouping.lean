import ApiTree.Decl.Basic
import ApiTree.Text.Blank

namespace ApiTree.Decl

/-!
# Groups

Every member of a declaration is presented in one group.  A decorator may name
the group; otherwise the first of a list of rules decides.  Entries of a group
are ordered by the names of the members they stand for, groups by a list of
well-known titles.
-/

/-- The decorator that names the group of a declaration. -/
def groupDecorator : String := "docs_group"

/-- The well-known titles in the order in which they are shown. -/
def titleOrder : List String :=
  [ "Classes", "Abstract classes", "Data structures", "Errors", "Functions",
    "Constructors", "Methods", "Properties", "Constants",
    "Enumeration members" ]

/-- The bases of a class that holds nothing but data. -/
def dataBases : List String :=
  ["BaseModel", "TypedDict"]

/-- Whether a character opens and closes a string literal. -/
def isQuote (char : Char) : Bool :=
  char == '"' || char == '\''

/--
The characters between the first quote and the last quote of the same kind, if
there are any.
-/
def literalChars : List Char → Option (List Char)
  | [] => none
  | char :: rest =>
      if isQuote char then
        let inside := (rest.reverse.dropWhile (· != char)).drop 1
        if inside.isEmpty then none else some inside.reverse
      else
        literalChars rest

/-- The string literal among the arguments of a decorator, without its quotes. -/
def Decorator.literal? (decorator : Decorator) : Option String :=
  decorator.arguments.bind fun arguments =>
    (literalChars arguments.toList).map String.ofList

/-- The literal of the first decorator of a name. -/
def literalOf?
    (name : String)
    (decorators : List Decorator) :
    Option String :=
  (decorators.find? (·.name == name)).bind Decorator.literal?

/-- An upper-case ASCII letter as the lower-case one. -/
def lowerChar (char : Char) : Char :=
  if 'A' ≤ char ∧ char ≤ 'Z' then Char.ofNat (char.toNat + 32) else char

namespace Info

/-- Whether a declaration holds nothing but data. -/
def isDataStructure (info : Info) : Bool :=
  info.bases.any dataBases.contains || info.hasDecorator "dataclass"

/-- Whether a declaration is a class whose name ends in `error`, in any case. -/
def isErrorClass (info : Info) : Bool :=
  info.kind == .classDecl &&
    ApiTree.Text.endsWith (info.name.toList.map lowerChar) "error".toList

end Info

/-- The rules that give a declaration a group, in the order they are tried. -/
def groupRules : List (String × (Info → Bool)) :=
  [ ("Data structures", Info.isDataStructure),
    ("Errors", Info.isErrorClass),
    ("Classes", fun info => info.kind == .classDecl),
    ("Methods", fun info => info.kind == .method),
    ("Constructors", fun info => info.kind == .constructor),
    ("Properties", fun info => info.kind == .property),
    ("Constants", fun info => info.kind == .enumeration),
    ("Enumeration members", fun info => info.kind == .enumMember) ]

/-- What gave a declaration its group. -/
inductive GroupSource where
  | decorator
  | rule
  deriving Repr, DecidableEq

/-- A group of a declaration and what gave it. -/
structure Assignment where
  title : String
  source : GroupSource
  deriving Repr, DecidableEq

/-- The group of a declaration, if it has one. -/
def Info.classify (info : Info) : Option Assignment :=
  match literalOf? groupDecorator info.decorators with
  | some title => some ⟨title, .decorator⟩
  | none =>
      (groupRules.find? fun rule => rule.2 info).map fun rule =>
        ⟨rule.1, .rule⟩

/-- The position of an element in a list. -/
def positionOf?
    {α : Type}
    [BEq α]
    (wanted : α) :
    List α → Option Nat
  | [] => none
  | first :: rest =>
      if first == wanted then
        some 0
      else
        (positionOf? wanted rest).map (· + 1)

/-- Well-known titles compare by their order, all others by their characters. -/
def compareTitles (first second : String) : Ordering :=
  match positionOf? first titleOrder, positionOf? second titleOrder with
  | some firstPosition, some secondPosition =>
      compare firstPosition secondPosition
  | _, _ => compare first second

namespace Declaration

/-- The first member that has a number or was inherited from it. -/
def findEntry?
    (declaration : Declaration)
    (id : DeclId) :
    Option Declaration :=
  declaration.children.find? fun child =>
    child.id == id ||
      match child.info.inheritedFrom with
      | some origin => origin.target == some id
      | none => false

/-- The name of the member that an entry stands for, empty if there is none. -/
def entryName
    (declaration : Declaration)
    (id : DeclId) :
    String :=
  match declaration.findEntry? id with
  | some child => child.name
  | none => ""

/-- The entries ordered by the names they stand for; equal names keep their order. -/
def sortEntries
    (declaration : Declaration)
    (entries : List DeclId) :
    List DeclId :=
  ((entries.map fun entry => (declaration.entryName entry, entry)).mergeSort
    fun first second => !(second.1 < first.1)).map (·.2)

end Declaration

/--
Moves a group to the left past the groups that have to follow it, in a list
whose last group comes first.
-/
def insertLeft
    (group : Group) :
    List Group → List Group
  | [] => [group]
  | last :: earlier =>
      if compareTitles last.title group.title = .gt then
        last :: insertLeft group earlier
      else
        group :: last :: earlier

/--
Insertion sort of groups.  The comparison of titles is not transitive, so the
result depends on the order of insertion, which is from left to right.
-/
def sortGroups (groups : List Group) : List Group :=
  (groups.foldl (fun sorted group => insertLeft group sorted) []).reverse

namespace Declaration

/-- Orders the entries of each group, then the groups. -/
def sortMembers (declaration : Declaration) : Declaration :=
  declaration.updateInfo fun info =>
    { info with
      groups := sortGroups <| info.groups.map fun group =>
        { group with entries := declaration.sortEntries group.entries } }

end Declaration

end ApiTree.Decl
