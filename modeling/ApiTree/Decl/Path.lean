import ApiTree.Decl.Basic

namespace ApiTree.Decl

/-!
# Paths

A path leads from a declaration to one of its descendants: the positions of the
members on the way.  Only members are on paths; signatures and parameters are
not.  A path stays valid as long as members are only added at the end.
-/

/-- The positions of the members on the way down. -/
abbrev Path : Type := List Nat

namespace Declaration

/-- The declaration at the end of a path. -/
def descendant?
    (declaration : Declaration) :
    Path → Option Declaration
  | [] => some declaration
  | index :: rest =>
      declaration.children[index]?.bind fun child => child.descendant? rest

/-- Replaces the declaration at the end of a path, if there is one. -/
def replaceAt
    (declaration replacement : Declaration) :
    Path → Declaration
  | [] => replacement
  | index :: rest =>
      match declaration.children[index]? with
      | some child =>
          declaration.setChildren
            (declaration.children.set index (child.replaceAt replacement rest))
      | none => declaration

/-- Changes the declaration at the end of a path, if there is one. -/
def updateAt
    (declaration : Declaration)
    (path : Path)
    (change : Declaration → Declaration) :
    Declaration :=
  match declaration.descendant? path with
  | some found => declaration.replaceAt (change found) path
  | none => declaration

mutual

/--
The number and the path of a declaration and of all its descendants, below a
path.  A declaration comes before its members, and later members come first.
-/
def pathsFrom
    (path : Path) :
    Declaration → List (DeclId × Path)
  | .node info children _ _ =>
      (info.id, path) :: pathsOfChildren path 0 children

/-- The paths of members that start at a position. -/
def pathsOfChildren
    (path : Path)
    (index : Nat) :
    List Declaration → List (DeclId × Path)
  | [] => []
  | child :: rest =>
      pathsOfChildren path (index + 1) rest ++
        child.pathsFrom (path ++ [index])

end

/-- Keeps the first entry of every number. -/
def keepFirst
    (seen : List DeclId) :
    List (DeclId × Path) → List (DeclId × Path)
  | [] => []
  | (id, path) :: rest =>
      if seen.contains id then
        keepFirst seen rest
      else
        (id, path) :: keepFirst (id :: seen) rest

/-- The path of every number among the descendants. -/
def childPaths (declaration : Declaration) : List (DeclId × Path) :=
  keepFirst [] (declaration.pathsFrom [])

end Declaration

end ApiTree.Decl
