import ApiTree.Proofs.Decl.Everywhere

namespace ApiTree.Decl

/-!
# What copies have in common

A copy has numbers of its own, and entries of groups follow them.  What is left of a
declaration without its numbers and without the record of where it comes from is its
likeness, and every copy has the likeness of what it is a copy of.
-/

/-- The information without the numbers that copies change, and without its origin. -/
def Info.likeness (info : Info) : Info :=
  { info with
    id := 0
    groups := info.groups.map fun group =>
      { group with entries := group.entries.map fun _ => 0 }
    inheritedFrom := none }

namespace Declaration

/-- The declaration and all that it owns, without numbers and origins. -/
def likeness (declaration : Declaration) : Declaration :=
  declaration.mapInfo Info.likeness

theorem likeness_node
    (info : Info)
    (children signatures parameters : List Declaration) :
    (node info children signatures parameters).likeness =
      node info.likeness (children.map likeness) (signatures.map likeness)
        (parameters.map likeness) :=
  mapInfo_node _ _ _ _ _

theorem map_likeness_assignAll
    {declarations : List Declaration}
    (each : ∀ one ∈ declarations, ∀ supply,
      (one.assign supply).1.likeness = one.likeness)
    (supply : IdSupply) :
    (assignAll supply declarations).1.map likeness =
      declarations.map likeness := by
  induction declarations generalizing supply with
  | nil =>
      rfl
  | cons first rest inductionHypothesis =>
      simp only [assignAll, List.map_cons]
      rw [each first List.mem_cons_self,
        inductionHypothesis fun one inRest =>
          each one (List.mem_cons_of_mem _ inRest)]

/-- New numbers keep the likeness. -/
theorem likeness_assign
    (declaration : Declaration)
    (supply : IdSupply) :
    (declaration.assign supply).1.likeness = declaration.likeness := by
  induction declaration using ownedInduction generalizing supply with
  | node info children signatures parameters
      childrenHold signaturesHold parametersHold =>
      simp only [assign, likeness_node]
      rw [map_likeness_assignAll childrenHold,
        map_likeness_assignAll signaturesHold,
        map_likeness_assignAll parametersHold]
      rfl

theorem likeness_assignOwned
    (declaration : Declaration)
    (supply : IdSupply) :
    (declaration.assignOwned supply).1.likeness = declaration.likeness := by
  cases declaration with
  | node info children signatures parameters =>
      have each (list : List Declaration) (next : IdSupply) :=
        map_likeness_assignAll (fun one (_ : one ∈ list) => likeness_assign one) next
      simp only [assignOwned, likeness_node, each]

/-- Entries that follow new numbers keep the likeness. -/
theorem likeness_renameGroups
    (numbers : Renumbering)
    (declaration : Declaration) :
    (declaration.renameGroups numbers).likeness = declaration.likeness := by
  have same (info : Info) :
      Info.likeness
          { info with
            groups := info.groups.map fun group =>
              { group with entries := group.entries.map numbers.apply } } =
        info.likeness := by
    simp [Info.likeness, Function.comp_def]
  rw [likeness, renameGroups, mapInfo_mapInfo]
  exact congrArg (mapInfo · declaration) (funext same)

/-- A renumbered declaration has the likeness that it had. -/
theorem likeness_renumber
    (declaration : Declaration)
    (supply : IdSupply) :
    (declaration.renumber supply).1.likeness = declaration.likeness :=
  (likeness_renameGroups _ _).trans (likeness_assign declaration supply)

theorem likeness_renumberOwned
    (declaration : Declaration)
    (supply : IdSupply) :
    (declaration.renumberOwned supply).1.likeness = declaration.likeness :=
  (likeness_renameGroups _ _).trans (likeness_assignOwned declaration supply)

/-- Declarations of one likeness have one name. -/
theorem name_eq_of_likeness_eq
    {first second : Declaration}
    (same : first.likeness = second.likeness) :
    first.name = second.name := by
  cases first
  cases second
  rw [likeness_node, likeness_node] at same
  exact (congrArg Info.name (node.inj same).1 :)

end Declaration

end ApiTree.Decl
