import ApiTree.Decl.Grouping
import ApiTree.Decl.Renumber

namespace ApiTree.Decl

/-!
# Inheritance

A hierarchy records which class extends which.  Bases are recorded by name,
because a class may come before its base; they are looked up when all classes
are known.  Members then flow down, from each ancestor to each descendant, in
an order in which an ancestor comes before its descendants.

A member of the ancestor is copied to the descendant under new numbers if the
descendant has no member of that name.  If it has one without a summary, that
member takes over everything but its number.  Otherwise it stands.
-/

/-- That a class extends a class of a name. -/
structure Extends where
  ancestor : String
  descendant : DeclId
  deriving Repr, DecidableEq

/-- The classes by name, the newest first, and what each extends. -/
structure Hierarchy where
  classes : List (String × DeclId) := []
  edges : List Extends := []
  deriving Repr

/-- That one declaration extends another. -/
abbrev Edge : Type := DeclId × DeclId

namespace Hierarchy

/-- The hierarchy without classes. -/
def empty : Hierarchy := {}

/-- Records that a class extends a class of a name. -/
def addEdge
    (hierarchy : Hierarchy)
    (ancestor : String)
    (descendant : DeclId) :
    Hierarchy :=
  { hierarchy with edges := hierarchy.edges ++ [⟨ancestor, descendant⟩] }

/-- Makes a class known under its name; it hides earlier classes of that name. -/
def register
    (hierarchy : Hierarchy)
    (name : String)
    (id : DeclId) :
    Hierarchy :=
  { hierarchy with classes := (name, id) :: hierarchy.classes }

/-- The class of a name. -/
def class?
    (hierarchy : Hierarchy)
    (name : String) :
    Option DeclId :=
  hierarchy.classes.lookup name

/-- Adds an edge unless it leads to itself or is there already. -/
def insertEdge
    (edges : List Edge)
    (edge : Edge) :
    List Edge :=
  if edge.1 = edge.2 ∨ edge ∈ edges then edges else edges ++ [edge]

/--
The edges between known classes in the order in which they were recorded.  A
class that extends itself and a base that is not known are left out.
-/
def resolvedEdges (hierarchy : Hierarchy) : List Edge :=
  hierarchy.edges.foldl
    (fun edges recorded =>
      match hierarchy.class? recorded.ancestor with
      | some ancestor => insertEdge edges (ancestor, recorded.descendant)
      | none => edges)
    []

/-- Adds an element at the end unless it is there already. -/
def insertLast
    (elements : List DeclId)
    (element : DeclId) :
    List DeclId :=
  if element ∈ elements then elements else elements ++ [element]

/-- The ends of edges, each once, in the order in which they are first named. -/
def endpoints (edges : List Edge) : List DeclId :=
  edges.foldl
    (fun known edge => insertLast (insertLast known edge.1) edge.2)
    []

/-- The declarations that directly extend a given one. -/
def successors
    (edges : List Edge)
    (node : DeclId) :
    List DeclId :=
  (edges.filter (·.1 == node)).map (·.2)

/-- Where a depth-first visit stands: what was seen, and what was left, newest first. -/
structure Visit where
  seen : List DeclId := []
  left : List DeclId := []

/--
Visits what hangs below a list of declarations, leaving each after all that it
leads to.  The bound limits how deep the visit goes.
-/
def visitAll
    (edges : List Edge) :
    Nat → List DeclId → Visit → Visit
  | 0, _, visit => visit
  | depth + 1, nodes, visit =>
      nodes.foldl
        (fun visit node =>
          if node ∈ visit.seen then
            visit
          else
            let below :=
              visitAll edges depth (successors edges node)
                { visit with seen := node :: visit.seen }
            { below with left := node :: below.left })
        visit

/--
The ends of edges in an order in which ancestors come before descendants, as
far as the edges allow one.  It is the reverse of the order in which a
depth-first visit leaves them, started at the last end first.
-/
def topologicalOrder (edges : List Edge) : List DeclId :=
  let nodes := endpoints edges
  (visitAll edges (nodes.length + 1) nodes.reverse {}).left

end Hierarchy

/-- Why members could not be inherited. -/
inductive HierarchyError where
  /-- A member of an ancestor belongs to no group. -/
  | missingGroup (member ancestor : String)
  deriving Repr, DecidableEq

/-- The message of the error. -/
def HierarchyError.message : HierarchyError → String
  | .missingGroup member ancestor =>
      "cannot determine a group for `" ++ member ++ "` (inherited from `" ++
        ancestor ++ "`)"

/-- What inheriting has done so far. -/
structure Inheriting where
  root : Declaration
  supply : IdSupply
  /-- How many members were copied or filled in. -/
  members : Nat := 0
  /-- The number of each copied node with the number of its copy. -/
  copies : Renumbering := []
  failure : Option HierarchyError := none

/-- What entering members into one class has done so far. -/
structure Injecting where
  target : Declaration
  supply : IdSupply
  members : Nat
  copies : Renumbering
  failure : Option HierarchyError := none

namespace Injecting

/-- Where a member of an ancestor was first declared. -/
def originOf
    (ancestorName : String)
    (member : Declaration) :
    Link :=
  match member.info.inheritedFrom with
  | some origin => origin
  | none => ⟨ancestorName ++ "." ++ member.name, some member.id⟩

/-- The position of the first member of a name. -/
def memberPosition?
    (name : String)
    (members : List Declaration) :
    Option Nat :=
  members.findIdx? (·.name == name)

/-- Copies a member that the class does not have. -/
def append
    (ancestorName : String)
    (injecting : Injecting)
    (member : Declaration) :
    Injecting :=
  match member.info.classify with
  | none =>
      { injecting with
        failure := some (.missingGroup member.name ancestorName) }
  | some group =>
      let origin := originOf ancestorName member
      let (copy, numbers, supply) := member.renumber injecting.supply
      let stamped :=
        copy.updateInfo fun info => { info with inheritedFrom := some origin }
      let grouped :=
        match origin.target with
        | some id => injecting.target.updateInfo (·.addToGroup group.title id)
        | none => injecting.target
      { injecting with
        target := grouped.addChild stamped
        supply := supply
        members := injecting.members + 1
        copies := injecting.copies ++ numbers }

/-- Lets the entries that stand for one origin stand for another. -/
def moveEntries
    (previous fresh : DeclId)
    (info : Info) :
    Info :=
  { info with
    groups := info.groups.map fun group =>
      { group with
        entries := group.entries.map fun entry =>
          if entry = previous then fresh else entry } }

/-- Replaces a member that has no summary, keeping its number. -/
def fill
    (ancestorName : String)
    (injecting : Injecting)
    (position : Nat)
    (own member : Declaration) :
    Injecting :=
  let origin := originOf ancestorName member
  let renamed := member.updateInfo fun info => { info with id := own.id }
  let (copy, numbers, supply) := renamed.renumberOwned injecting.supply
  let stamped :=
    copy.updateInfo fun info => { info with inheritedFrom := some origin }
  let replaced :=
    injecting.target.setChildren (injecting.target.children.set position stamped)
  let regrouped :=
    match own.info.inheritedFrom.bind (·.target), origin.target with
    | some previous, some fresh =>
        replaced.updateInfo (moveEntries previous fresh)
    | _, _ => replaced
  { injecting with
    target := regrouped
    supply := supply
    members := injecting.members + 1
    copies := injecting.copies ++ numbers }

/-- Enters one member of an ancestor. -/
def inject
    (ancestorName : String)
    (injecting : Injecting)
    (member : Declaration) :
    Injecting :=
  match injecting.failure with
  | some _ => injecting
  | none =>
      match memberPosition? member.name injecting.target.children with
      | none => append ancestorName injecting member
      | some position =>
          match injecting.target.children[position]? with
          | some own =>
              if own.info.hasSummary then
                injecting
              else
                fill ancestorName injecting position own member
          | none => injecting

end Injecting

namespace Inheriting

/-- Lets the members of one class flow into another. -/
def propagate
    (paths : List (DeclId × Path))
    (inheriting : Inheriting)
    (edge : Edge) :
    Inheriting :=
  match inheriting.failure with
  | some _ => inheriting
  | none =>
      match paths.lookup edge.1, paths.lookup edge.2 with
      | some ancestorPath, some descendantPath =>
          match inheriting.root.descendant? ancestorPath,
              inheriting.root.descendant? descendantPath with
          | some ancestor, some descendant =>
              let linked :=
                descendant.updateInfo fun info =>
                  { info with
                    extendedTypes :=
                      info.extendedTypes ++ [⟨ancestor.name, some edge.1⟩] }
              let injected :=
                ancestor.children.foldl (Injecting.inject ancestor.name)
                  { target := linked
                    supply := inheriting.supply
                    members := inheriting.members
                    copies := inheriting.copies }
              let result :=
                { inheriting with
                  supply := injected.supply
                  members := injected.members
                  copies := injected.copies
                  failure := injected.failure }
              match injected.failure with
              | some _ =>
                  { result with
                    root :=
                      inheriting.root.replaceAt injected.target descendantPath }
              | none =>
                  let withMembers :=
                    inheriting.root.replaceAt injected.target.sortMembers
                      descendantPath
                  { result with
                    root :=
                      withMembers.updateAt ancestorPath fun node =>
                        node.updateInfo fun info =>
                          { info with
                            extendedBy :=
                              info.extendedBy ++
                                [⟨descendant.name, some edge.2⟩] } }
          | _, _ => inheriting
      | _, _ => inheriting

end Inheriting

namespace Hierarchy

/-- The edges in the order in which members flow: by descendant, ancestors first. -/
def schedule (edges : List Edge) : List Edge :=
  (topologicalOrder edges).flatMap fun node => edges.filter (·.2 == node)

/-- Lets members flow along every edge.  After a failure the rest is left as it is. -/
def resolve
    (hierarchy : Hierarchy)
    (root : Declaration)
    (supply : IdSupply) :
    Inheriting :=
  let paths := root.childPaths
  (schedule hierarchy.resolvedEdges).foldl
    (Inheriting.propagate paths)
    { root := root, supply := supply }

end Hierarchy

end ApiTree.Decl
