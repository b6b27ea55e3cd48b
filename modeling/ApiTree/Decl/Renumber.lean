import ApiTree.Decl.Path

namespace ApiTree.Decl

/-!
# Renumbering

A copied declaration gets numbers of its own: the next free ones, owners first.
Entries of groups inside the copy follow the declarations they name; entries
that name declarations outside stay as they are.
-/

/-- The new number of each old one, in the order in which they were given. -/
abbrev Renumbering : Type := List (DeclId × DeclId)

namespace Renumbering

/-- The new number of a declaration; of several under one old number, the last. -/
def apply
    (numbers : Renumbering)
    (id : DeclId) :
    DeclId :=
  match numbers.reverse.lookup id with
  | some fresh => fresh
  | none => id

/-- Keeps the last pair of every old number. -/
def keepLast : Renumbering → Renumbering
  | [] => []
  | (old, fresh) :: rest =>
      if rest.any (·.1 == old) then
        keepLast rest
      else
        (old, fresh) :: keepLast rest

end Renumbering

namespace Declaration

mutual

/-- Numbers a declaration and all that it owns, owners first. -/
def assign
    (supply : IdSupply) :
    Declaration → Declaration × Renumbering × IdSupply
  | .node info children signatures parameters =>
      let (fresh, afterSelf) := supply.take
      let (newChildren, childNumbers, afterChildren) :=
        assignAll afterSelf children
      let (newSignatures, signatureNumbers, afterSignatures) :=
        assignAll afterChildren signatures
      let (newParameters, parameterNumbers, afterParameters) :=
        assignAll afterSignatures parameters
      ( .node { info with id := fresh } newChildren newSignatures newParameters,
        (info.id, fresh) ::
          (childNumbers ++ (signatureNumbers ++ parameterNumbers)),
        afterParameters )

/-- Numbers several declarations, in order. -/
def assignAll
    (supply : IdSupply) :
    List Declaration → List Declaration × Renumbering × IdSupply
  | [] => ([], [], supply)
  | first :: rest =>
      let (newFirst, firstNumbers, afterFirst) := first.assign supply
      let (newRest, restNumbers, afterRest) := assignAll afterFirst rest
      (newFirst :: newRest, firstNumbers ++ restNumbers, afterRest)

end

/-- Numbers all that a declaration owns, and keeps its own number. -/
def assignOwned
    (supply : IdSupply) :
    Declaration → Declaration × Renumbering × IdSupply
  | .node info children signatures parameters =>
      let (newChildren, childNumbers, afterChildren) :=
        assignAll supply children
      let (newSignatures, signatureNumbers, afterSignatures) :=
        assignAll afterChildren signatures
      let (newParameters, parameterNumbers, afterParameters) :=
        assignAll afterSignatures parameters
      ( .node info newChildren newSignatures newParameters,
        childNumbers ++ (signatureNumbers ++ parameterNumbers),
        afterParameters )

/-- Lets the groups of every node follow new numbers. -/
def renameGroups
    (numbers : Renumbering)
    (declaration : Declaration) :
    Declaration :=
  declaration.mapInfo fun info =>
    { info with
      groups := info.groups.map fun group =>
        { group with entries := group.entries.map numbers.apply } }

/-- Gives a declaration and all that it owns new numbers. -/
def renumber
    (supply : IdSupply)
    (declaration : Declaration) :
    Declaration × Renumbering × IdSupply :=
  let (assigned, numbers, rest) := declaration.assign supply
  (assigned.renameGroups numbers, numbers.keepLast, rest)

/-- Gives all that a declaration owns new numbers. -/
def renumberOwned
    (supply : IdSupply)
    (declaration : Declaration) :
    Declaration × Renumbering × IdSupply :=
  let (assigned, numbers, rest) := declaration.assignOwned supply
  (assigned.renameGroups numbers, numbers.keepLast, rest)

end Declaration

end ApiTree.Decl
