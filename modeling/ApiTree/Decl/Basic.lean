import ApiTree.Decl.Id
import ApiTree.Decl.Kind

namespace ApiTree.Decl

/-!
# Declarations

A declaration is a tree.  It owns its children, its signatures and their
parameters; groups and links name other declarations by number only.  All that
is not owned is the declaration's `Info`.
-/

/-- A decorator with the text of its arguments, parentheses included. -/
structure Decorator where
  name : String
  arguments : Option String
  deriving Repr, DecidableEq

/-- A piece of text in a comment. -/
structure TextPart where
  kind : String
  text : String
  deriving Repr, DecidableEq

/-- A tagged block of a comment. -/
structure BlockTag where
  tag : String
  content : List TextPart
  deriving Repr, DecidableEq

/-- The documentation of a declaration. -/
structure Comment where
  summary : List TextPart
  blockTags : List BlockTag
  deriving Repr, DecidableEq

/-- Where a declaration was found. -/
structure SourceSpot where
  file : String
  line : Nat
  column : Nat
  deriving Repr, DecidableEq

/-- A named link to a declaration. -/
structure Link where
  name : String
  target : Option DeclId
  deriving Repr, DecidableEq

/-- A titled list of declarations among the children of one declaration. -/
structure Group where
  title : String
  entries : List DeclId
  deriving Repr, DecidableEq

/-- All of a declaration but the declarations that it owns. -/
structure Info where
  id : DeclId
  name : String
  kind : Kind
  isOptional : Bool := false
  isKeywordOnly : Bool := false
  comment : Option Comment := none
  decorators : List Decorator := []
  modifiers : List String := []
  /-- The label of the module that the declaration is exported from. -/
  moduleLabel : Option String := none
  sources : List SourceSpot := []
  type : Option TypeExpr := none
  defaultValue : Option String := none
  groups : List Group := []
  extendedTypes : List Link := []
  extendedBy : List Link := []
  inheritedFrom : Option Link := none
  /-- The texts of the base classes. -/
  bases : List String := []
  deriving Repr, Inhabited

/-- A declaration with its children, signatures and parameters. -/
inductive Declaration where
  | node
      (info : Info)
      (children signatures parameters : List Declaration)
  deriving Repr, Inhabited

/-- A text as a piece of a comment. -/
def TextPart.ofText (text : String) : TextPart :=
  ⟨"text", text⟩

namespace Comment

/-- A comment of one paragraph. -/
def ofSummary (text : String) : Comment :=
  ⟨[.ofText text], []⟩

/-- The comment with the description of the returned value added. -/
def addReturns
    (comment : Comment)
    (returns : String) :
    Comment :=
  { comment with
    blockTags := comment.blockTags ++ [⟨"@returns", [.ofText returns]⟩] }

/-- The first paragraph, empty if there is none. -/
def summaryText (comment : Comment) : String :=
  match comment.summary with
  | [] => ""
  | part :: _ => part.text

end Comment

namespace Info

/-- Whether there is documentation with a first paragraph. -/
def hasSummary (info : Info) : Bool :=
  match info.comment with
  | some comment => !comment.summaryText.isEmpty
  | none => false

/-- Whether a decorator of a name is attached. -/
def hasDecorator
    (info : Info)
    (name : String) :
    Bool :=
  info.decorators.any (·.name == name)

/-- Enters a declaration into the group of a title, at its end. -/
def addToGroup
    (info : Info)
    (title : String)
    (id : DeclId) :
    Info :=
  { info with groups := enter info.groups }
where
  /-- Enters the declaration into the first group of the title, or a new one. -/
  enter : List Group → List Group
    | [] => [⟨title, [id]⟩]
    | group :: rest =>
        if group.title = title then
          { group with entries := group.entries ++ [id] } :: rest
        else
          group :: enter rest

/-- Every named link: the types extended, the types extending, the origin. -/
def links (info : Info) : List Link :=
  info.extendedTypes ++ info.extendedBy ++ info.inheritedFrom.toList

/-- Every name that refers to a declaration, with its target. -/
def references (info : Info) : List (String × Option DeclId) :=
  (match info.type with
    | some type => type.references
    | none => []) ++
    info.links.map fun link => (link.name, link.target)

/-- Points every name that a table knows at its declaration. -/
def retarget
    (lookup : String → Option DeclId)
    (info : Info) :
    Info :=
  { info with
    type := info.type.map (·.retarget lookup)
    extendedTypes := info.extendedTypes.map point
    extendedBy := info.extendedBy.map point
    inheritedFrom := info.inheritedFrom.map point }
where
  /-- Points one link. -/
  point (link : Link) : Link :=
    { link with target := lookup link.name <|> link.target }

end Info

namespace Declaration

/-- All but the declarations that are owned. -/
def info : Declaration → Info
  | .node info _ _ _ => info

/-- The members. -/
def children : Declaration → List Declaration
  | .node _ children _ _ => children

/-- The call signatures. -/
def signatures : Declaration → List Declaration
  | .node _ _ signatures _ => signatures

/-- The parameters. -/
def parameters : Declaration → List Declaration
  | .node _ _ _ parameters => parameters

/-- The number. -/
def id (declaration : Declaration) : DeclId :=
  declaration.info.id

/-- The name. -/
def name (declaration : Declaration) : String :=
  declaration.info.name

/-- The kind. -/
def kind (declaration : Declaration) : Kind :=
  declaration.info.kind

/-- A declaration that owns nothing yet. -/
def ofInfo (info : Info) : Declaration :=
  .node info [] [] []

/-- The declaration with its information changed. -/
def updateInfo
    (change : Info → Info) :
    Declaration → Declaration
  | .node info children signatures parameters =>
      .node (change info) children signatures parameters

/-- The declaration with another list of members. -/
def setChildren
    (children : List Declaration) :
    Declaration → Declaration
  | .node info _ signatures parameters =>
      .node info children signatures parameters

/-- The declaration with a member added at the end. -/
def addChild
    (declaration child : Declaration) :
    Declaration :=
  match declaration with
  | .node info children signatures parameters =>
      .node info (children ++ [child]) signatures parameters

/-- The declaration with a signature added at the end. -/
def addSignature
    (declaration signature : Declaration) :
    Declaration :=
  match declaration with
  | .node info children signatures parameters =>
      .node info children (signatures ++ [signature]) parameters

/-- The first member of a name. -/
def findChild?
    (declaration : Declaration)
    (name : String) :
    Option Declaration :=
  declaration.children.find? (·.name == name)

mutual

/-- The declaration and all that it owns, owners first. -/
def nodes : Declaration → List Declaration
  | .node info children signatures parameters =>
      .node info children signatures parameters ::
        (nodesOfAll children ++ (nodesOfAll signatures ++ nodesOfAll parameters))

/-- The nodes of several declarations, in order. -/
def nodesOfAll : List Declaration → List Declaration
  | [] => []
  | first :: rest => first.nodes ++ nodesOfAll rest

end

/-- The information of every node, owners first. -/
def infos (declaration : Declaration) : List Info :=
  declaration.nodes.map info

/-- The number of every node, owners first. -/
def ids (declaration : Declaration) : List DeclId :=
  declaration.nodes.map id

mutual

/-- Changes the information of every node. -/
def mapInfo
    (change : Info → Info) :
    Declaration → Declaration
  | .node info children signatures parameters =>
      .node (change info)
        (mapInfoOfAll change children)
        (mapInfoOfAll change signatures)
        (mapInfoOfAll change parameters)

/-- Changes the information of every node of several declarations. -/
def mapInfoOfAll
    (change : Info → Info) :
    List Declaration → List Declaration
  | [] => []
  | first :: rest => first.mapInfo change :: mapInfoOfAll change rest

end

/-- Every name in the tree that refers to a declaration, with its target. -/
def references (declaration : Declaration) : List (String × Option DeclId) :=
  declaration.infos.flatMap Info.references

/-- Points every name in the tree that a table knows at its declaration. -/
def retarget
    (lookup : String → Option DeclId)
    (declaration : Declaration) :
    Declaration :=
  declaration.mapInfo (Info.retarget lookup)

end Declaration

end ApiTree.Decl
