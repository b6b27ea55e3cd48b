import ApiTree.Decl.Hierarchy
import ApiTree.Decl.Written
import ApiTree.Dump.Docstring
import ApiTree.Dump.Object
import ApiTree.Resolve.Pending

namespace ApiTree.Convert

open ApiTree.Decl
open ApiTree.Dump (ApiObject Argument Docstring Facts)
open ApiTree.Resolve (Pending)

/-!
# Assembling declarations

One walk over the scanned modules makes the declarations of a project.  On the
way it numbers them, collects their types, records which class extends which,
and notes under which name each can be referred to.

Modules and hidden objects make no declaration: their members move up.  Type
aliases are only recorded.  Alternative signatures wait until the members of
their owner are complete and then join the first callable member of their name.
-/

/-- The settings of a conversion. -/
structure Options where
  /-- The name of the project. -/
  projectName : String := "python"
  /-- The dotted path under which a symbol of a module is exported again. -/
  shortcuts : List (String × String) := []
  /-- What stands for the root of the repository in file names. -/
  repositoryRoot : String := "REPO_ROOT_PLACEHOLDER"
  deriving Repr, DecidableEq

/-- The base that turns a class into an enumeration. -/
def enumerationBase : String := "Enum"

/-- The name of constructors. -/
def constructorName : String := "__init__"

/-- What has been collected so far. -/
structure Assembly where
  supply : IdSupply := .fresh
  pending : Pending := .empty
  hierarchy : Hierarchy := .empty
  /-- Every declaration under its name, the newest first. -/
  declared : List (String × DeclId) := []
  symbols : SymbolTable := []
  /-- The docstrings of callables, the newest first. -/
  docstrings : List (DeclId × Docstring) := []
  warnings : List String := []

/-- Where an object stands. -/
structure Site where
  moduleName : String := ""
  /-- The file of the closest object around it that has one. -/
  file : String := ""
  /-- The docstring of the innermost class around it. -/
  context : Option Docstring := none

/-- A declaration whose members are being collected. -/
structure Owner where
  node : Declaration
  /-- The alternative signatures that wait for their members. -/
  overloads : List Facts := []

namespace Assembly

/-- Takes the next number. -/
def takeId (assembly : Assembly) : DeclId × Assembly :=
  let (id, supply) := assembly.supply.take
  (id, { assembly with supply := supply })

/-- Collects a type expression and gives its placeholder. -/
def addType
    (expression : Option String)
    (assembly : Assembly) :
    TypeExpr × Assembly :=
  let (type, pending) := assembly.pending.register expression none
  (type, { assembly with pending := pending })

/-- Records what a type alias stands for. -/
def addAlias
    (facts : Facts)
    (assembly : Assembly) :
    Assembly :=
  { assembly with
    pending := (assembly.pending.register facts.valueText? (some facts.name)).2 }

/-- Records what is known of a number. -/
def recordSymbol
    (id : DeclId)
    (name file : String)
    (assembly : Assembly) :
    Assembly :=
  { assembly with symbols := assembly.symbols.record id ⟨name, file⟩ }

/-- Makes a declaration known under its name. -/
def declareName
    (id : DeclId)
    (name file : String)
    (assembly : Assembly) :
    Assembly :=
  recordSymbol id name file
    { assembly with declared := (name, id) :: assembly.declared }

/-- Records a signature and its parameters, which have no names to refer to. -/
def recordSignature
    (file : String)
    (signature : Declaration)
    (assembly : Assembly) :
    Assembly :=
  (signature :: signature.parameters).foldl
    (fun assembly node => assembly.recordSymbol node.id node.name file)
    assembly

/-- The file that was recorded with a number. -/
def fileOf
    (assembly : Assembly)
    (id : DeclId) :
    String :=
  match assembly.symbols.lookup id with
  | some symbol => symbol.file
  | none => ""

end Assembly

/-- The comment of a declaration. -/
def summaryComment? (docstring : Docstring) : Option Comment :=
  if docstring.isEmpty then none else some (.ofSummary docstring.text)

/-- The comment of a signature: the summary and what is returned. -/
def signatureComment? (docstring : Docstring) : Option Comment :=
  (summaryComment? docstring).map fun comment =>
    match docstring.returns with
    | some returns => comment.addReturns returns
    | none => comment

/-- Whether a parameter may be left out. -/
def isOptionalArgument (argument : Argument) : Bool :=
  argument.defaultValue.isSome ||
    match argument.type with
    | some type => ApiTree.Text.containsChars "Optional".toList type.toList
    | none => false

namespace Assembly

/-- Makes a parameter. -/
def parameter
    (docstring : Docstring)
    (argument : Argument)
    (assembly : Assembly) :
    Declaration × Assembly :=
  let (id, numbered) := assembly.takeId
  let (type, typed) := numbered.addType argument.type
  ( .ofInfo
      { id := id
        name := argument.name
        kind := .parameter
        isOptional := isOptionalArgument argument
        isKeywordOnly := argument.isKeywordOnly
        comment := (docstring.parameter? argument.name).map .ofSummary
        type := some type
        defaultValue := argument.defaultValue },
    typed )

/-- Makes parameters, in order. -/
def parameters
    (docstring : Docstring) :
    List Argument → Assembly → List Declaration × Assembly
  | [], assembly => ([], assembly)
  | argument :: rest, assembly =>
      let (first, afterFirst) := assembly.parameter docstring argument
      let (others, afterAll) := parameters docstring rest afterFirst
      (first :: others, afterAll)

/-- Makes a call signature with a parameter for each argument but the receiver. -/
def signature
    (facts : Facts)
    (docstring : Docstring)
    (name : String)
    (assembly : Assembly) :
    Declaration × Assembly :=
  let (id, numbered) := assembly.takeId
  let (type, typed) := numbered.addType facts.returnType
  let (parameters, afterAll) :=
    typed.parameters docstring (facts.arguments.filter (!·.isReceiver))
  ( .node
      { id := id
        name := name
        kind := .callSignature
        comment := signatureComment? docstring
        modifiers := facts.modifiers
        type := some type }
      [] [] parameters,
    afterAll )

end Assembly

/-- The docstring of an object, or what the class around it says about its name. -/
def docstringAt
    (site : Site)
    (facts : Facts) :
    Docstring :=
  let own := Docstring.parse facts.docstringText
  if own.isEmpty then
    match site.context.bind fun context => context.parameter? facts.name with
    | some description => { own with text := description }
    | none => own
  else
    own

/-- The module that an object is exported from, shortcuts followed. -/
def moduleLabel
    (options : Options)
    (site : Site)
    (name : String) :
    Option String :=
  if site.moduleName.isEmpty then
    none
  else
    match options.shortcuts.lookup (site.moduleName ++ "." ++ name) with
    | none => some site.moduleName
    | some path =>
        some <|
          match ApiTree.Text.dropEnd? ("." ++ name).toList path.toList with
          | some label => String.ofList label
          | none => path

/-- Whether one of the bases makes a class an enumeration. -/
def extendsEnumeration (facts : Facts) : Bool :=
  facts.bases.any fun base => ApiTree.Text.trim base == enumerationBase

/-- What a declaration is, apart from constructors, and where its type comes from. -/
inductive Shape where
  /-- A value of an enumeration. -/
  | constant (value : ApiTree.Json.Value)
  /-- A property with its type expression. -/
  | property (type : Option String)
  | other (kind : Kind)

namespace Shape

/-- The shape of an object under an owner of a kind. -/
def of
    (ownerKind : Kind)
    (facts : Facts) :
    Shape :=
  if ownerKind = .enumeration then
    .constant (facts.value.getD .null)
  else if facts.isProperty then
    .property (facts.returnType <|> facts.type)
  else if extendsEnumeration facts then
    .other .enumeration
  else
    match facts.baseKind?.getD .property with
    | .property => .property facts.type
    | kind => .other kind

/-- The kind of declaration. -/
def kind : Shape → Kind
  | .constant _ => .enumMember
  | .property _ => .property
  | .other kind => kind

end Shape

namespace Assembly

/-- The type of a declaration. -/
def shapeType : Shape → Assembly → Option TypeExpr × Assembly
  | .constant value, assembly => (some (.literal value), assembly)
  | .property expression, assembly =>
      let (type, typed) := assembly.addType expression
      (some type, typed)
  | .other _, assembly => (none, assembly)

/-- Makes the declaration of an object, without its members. -/
def declaration
    (options : Options)
    (site : Site)
    (ownerKind : Kind)
    (facts : Facts)
    (docstring : Docstring)
    (assembly : Assembly) :
    Declaration × Assembly :=
  let shape := Shape.of ownerKind facts
  let (type, typed) := assembly.shapeType shape
  let (id, numbered) := typed.takeId
  let name := facts.displayName
  let file := ApiTree.Text.erase options.repositoryRoot site.file
  let named := numbered.declareName id name file
  let info : Info :=
    { id := id
      name := name
      kind := shape.kind
      comment := summaryComment? docstring
      decorators := facts.decorators
      moduleLabel := moduleLabel options site facts.name
      sources := [⟨file, facts.location.line, 1⟩]
      type := type
      bases := facts.bases }
  if shape.kind = .method then
    let (signature, signed) := named.signature facts docstring name
    let kind := if facts.name = constructorName then .constructor else .method
    ( (Declaration.ofInfo { info with kind := kind }).addSignature signature,
      signed.recordSignature file signature )
  else
    (.ofInfo info, named)

end Assembly

/-- The warning about an alternative signature that finds no member to join. -/
def overloadWarning (overload owner : String) : String :=
  "overload `" ++ overload ++ "` in `" ++ owner ++ "` has no base method"

/-- The position of the first callable member of a name. -/
def callablePosition?
    (name : String)
    (members : List Declaration) :
    Option Nat :=
  members.findIdx? fun member => member.kind.isCallable && member.name == name

namespace Assembly

/-- The docstring of an alternative signature: its own, or that of the callable. -/
def overloadDocstring
    (assembly : Assembly)
    (overload : Facts)
    (callable : DeclId) :
    Docstring :=
  let own := Docstring.parse overload.docstringText
  if own.isEmpty then (assembly.docstrings.lookup callable).getD own else own

/-- Lets one alternative signature join its callable, or warns. -/
def mergeOverload
    (node : Declaration)
    (overload : Facts)
    (assembly : Assembly) :
    Declaration × Assembly :=
  let name := overload.displayName
  match (callablePosition? name node.children).bind fun position =>
      (node.children[position]?).map fun callable => (position, callable) with
  | none =>
      ( node,
        { assembly with
          warnings := assembly.warnings ++ [overloadWarning name node.name] } )
  | some (position, callable) =>
      let docstring := assembly.overloadDocstring overload callable.id
      let (signature, signed) := assembly.signature overload docstring name
      ( node.setChildren
          (node.children.set position (callable.addSignature signature)),
        signed.recordSignature (signed.fileOf callable.id) signature )

/-- Lets alternative signatures join their callables, in order. -/
def mergeOverloads :
    List Facts → Declaration → Assembly → Declaration × Assembly
  | [], node, assembly => (node, assembly)
  | overload :: rest, node, assembly =>
      let (merged, afterFirst) := assembly.mergeOverload node overload
      mergeOverloads rest merged afterFirst

/-- Records the bases of a class. -/
def addBases
    (id : DeclId)
    (bases : List String)
    (assembly : Assembly) :
    Assembly :=
  { assembly with
    hierarchy := bases.foldl
      (fun hierarchy base =>
        hierarchy.addEdge (ApiTree.Resolve.baseName base) id)
      assembly.hierarchy }

/-- Makes a class known to the classes that extend it. -/
def addClass
    (id : DeclId)
    (name : String)
    (assembly : Assembly) :
    Assembly :=
  { assembly with hierarchy := assembly.hierarchy.register name id }

/-- Keeps the docstring of a callable for its alternative signatures. -/
def keepDocstring
    (id : DeclId)
    (docstring : Docstring)
    (assembly : Assembly) :
    Assembly :=
  { assembly with docstrings := (id, docstring) :: assembly.docstrings }

end Assembly

/--
Enters a finished member into the group it belongs to.  In the project itself
rules give groups only if some decorator names a group.
-/
def enterGroup
    (usesGroups : Bool)
    (member : Declaration)
    (owner : Declaration) :
    Declaration :=
  match member.info.classify with
  | none => owner
  | some group =>
      if group.source = .decorator ∨ owner.kind ≠ .project ∨ usesGroups then
        owner.updateInfo (·.addToGroup group.title member.id)
      else
        owner

namespace Assembly

/--
Completes a declaration whose members were walked: a class is entered into the
hierarchy, alternative signatures join, and the docstring of a callable is kept.
-/
def complete
    (facts : Facts)
    (docstring : Docstring)
    (owner : Owner)
    (assembly : Assembly) :
    Declaration × Assembly :=
  let id := owner.node.id
  let isClass := owner.node.kind == .classDecl
  let based := if isClass then assembly.addBases id facts.bases else assembly
  let (node, merged) := based.mergeOverloads owner.overloads owner.node
  let entered := if isClass then merged.addClass id facts.name else merged
  ( node,
    if node.kind.isCallable then entered.keepDocstring id docstring else entered )

end Assembly

/-- The site of an object, given the site of what is around it. -/
def Site.enter
    (site : Site)
    (facts : Facts) :
    Site :=
  if facts.location.file.isEmpty then
    site
  else
    { site with file := facts.location.file }

mutual

/-- Walks an object and adds what it makes to its owner. -/
def walk
    (options : Options)
    (usesGroups : Bool)
    (site : Site) :
    ApiObject → Owner × Assembly → Owner × Assembly
  | .mk facts members, (owner, assembly) =>
      let here := site.enter facts
      if facts.isModule then
        walkAll options usesGroups { here with moduleName := facts.name } members
          (owner, assembly)
      else if facts.isHidden then
        walkAll options usesGroups here members (owner, assembly)
      else if facts.isTypeAlias then
        (owner, assembly.addAlias facts)
      else if facts.isOverload then
        ({ owner with overloads := owner.overloads ++ [facts] }, assembly)
      else
        let docstring := docstringAt here facts
        let (node, declared) :=
          assembly.declaration options here owner.node.kind facts docstring
        let inside :=
          if node.kind = .classDecl then
            { here with context := some docstring }
          else
            here
        let (filled, walked) :=
          walkAll options usesGroups inside members ({ node := node }, declared)
        let (member, completed) := walked.complete facts docstring filled
        ( { owner with
            node := (enterGroup usesGroups member owner.node).addChild
              member.sortMembers },
          completed )

/-- Walks several objects, in order. -/
def walkAll
    (options : Options)
    (usesGroups : Bool)
    (site : Site) :
    List ApiObject → Owner × Assembly → Owner × Assembly
  | [], state => state
  | first :: rest, state =>
      walkAll options usesGroups site rest
        (walk options usesGroups site first state)

end

/-- The root of a project before its members are made. -/
def emptyRoot (options : Options) : Declaration :=
  .ofInfo { id := rootId, name := options.projectName, kind := .project }

/-- Makes the declarations of modules. -/
def assemble
    (options : Options)
    (modules : List ApiObject) :
    Declaration × Assembly :=
  let usesGroups := ApiObject.anyMentions groupDecorator modules
  let (owner, assembly) :=
    walkAll options usesGroups {} modules
      ({ node := emptyRoot options }, {})
  assembly.mergeOverloads owner.overloads owner.node

end ApiTree.Convert
