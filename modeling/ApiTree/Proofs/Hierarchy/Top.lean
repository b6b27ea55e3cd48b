import ApiTree.Proofs.Hierarchy.Filling
import ApiTree.Proofs.Hierarchy.Presentation
import ApiTree.Proofs.Hierarchy.Relinking

namespace ApiTree.Decl

/-!
# The top of a tree

Members flow between declarations below the top.  So the declaration at the top stays
as it is, and keeps its members: each changes in its groups and links at most.
-/

/-- That a tree has the declaration at the top of another, with nearly the same members. -/
structure SameTop (before after : Declaration) : Prop where
  info_eq : after.info = before.info
  members : List.Forall₂ Relinked (before.children.map Declaration.info)
    (after.children.map Declaration.info)

namespace SameTop

theorem refl (declaration : Declaration) : SameTop declaration declaration :=
  ⟨rfl, List.forall₂_same.mpr fun info _ => .refl info⟩

theorem trans
    {first second third : Declaration}
    (firstSame : SameTop first second)
    (secondSame : SameTop second third) :
    SameTop first third :=
  ⟨secondSame.info_eq.trans firstSame.info_eq,
    forall₂_trans (fun _ _ _ firstChange => firstChange.trans) firstSame.members
      secondSame.members⟩

/-- Replacing a declaration below the top by one that is relinked keeps the top. -/
theorem replaceAt
    {declaration found replacement : Declaration}
    {path : Path}
    (inner : path ≠ [])
    (leads : declaration.descendant? path = some found)
    (relinked : Relinked found.info replacement.info) :
    SameTop declaration (declaration.replaceAt replacement path) := by
  cases path with
  | nil =>
      exact (inner rfl).elim
  | cons index rest =>
      obtain ⟨child, isChild, leadsOn⟩ :=
        Declaration.descendant?_cons_eq_some_iff.mp leads
      rw [Declaration.replaceAt_cons isChild]
      refine ⟨Declaration.info_setChildren _ _, ?_⟩
      rw [Declaration.children_setChildren]
      exact Declaration.relinked_setChild isChild
        (Declaration.relinked_replaceAt leadsOn relinked)

end SameTop

/-- The numbers of the declaration at the top and of its members. -/
def Declaration.topIds (declaration : Declaration) : List DeclId :=
  declaration.id :: declaration.children.map Declaration.id

theorem SameTop.topIds_eq
    {before after : Declaration}
    (same : SameTop before after) :
    after.topIds = before.topIds := by
  have sameMembers : after.children.map Declaration.id =
      before.children.map Declaration.id := by
    have relinked := same.members
    rw [List.forall₂_map_left_iff, List.forall₂_map_right_iff] at relinked
    generalize before.children = members at relinked
    generalize after.children = others at relinked
    induction relinked with
    | nil => rfl
    | cons firstRelinked _ inductionHypothesis =>
        rw [List.map_cons, List.map_cons, inductionHypothesis]
        exact congrArg (· :: _) firstRelinked.id_eq
  rw [Declaration.topIds, Declaration.topIds, sameMembers, Declaration.id, same.info_eq]
  rfl

/-- What is inside a member has a number that is not at the top. -/
theorem Declaration.not_mem_topIds_of_member
    {declaration member : Declaration}
    {number : DeclId}
    (distinct : declaration.ids.Nodup)
    (isChild : member ∈ declaration.children)
    (inMember : number ∈ member.ownedIds) :
    number ∉ declaration.topIds := by
  have memberDistinct := nodup_ids_of_child distinct isChild
  have inIds := member.ownedIds_subset_ids inMember
  rw [ids_eq_cons_ownedIds, List.nodup_cons] at distinct memberDistinct
  obtain ⟨topApart, ownedDistinct⟩ := distinct
  rw [topIds, List.mem_cons, not_or]
  constructor
  · rintro rfl
    exact topApart (ids_subset_ownedIds isChild inIds)
  · intro isTop
    obtain ⟨other, isOther, rfl⟩ := List.mem_map.mp isTop
    obtain ⟨index, found⟩ := List.getElem?_of_mem isChild
    obtain ⟨otherIndex, otherFound⟩ := List.getElem?_of_mem isOther
    rw [ownedIds_eq] at ownedDistinct
    obtain rfl := eq_of_mem_ids (List.nodup_append.mp ownedDistinct).1 found otherFound inIds
      other.id_mem_ids
    obtain rfl := Option.some.inj (found.symm.trans otherFound)
    exact memberDistinct.1 inMember

theorem Declaration.not_mem_topIds
    {declaration found : Declaration}
    {path : Path}
    {number : DeclId}
    (distinct : declaration.ids.Nodup)
    (inner : path ≠ [])
    (leads : declaration.descendant? path = some found)
    (isOwned : number ∈ found.ownedIds) :
    number ∉ declaration.topIds := by
  cases path with
  | nil =>
      exact (inner rfl).elim
  | cons index rest =>
      obtain ⟨member, isMember, leadsOn⟩ := descendant?_cons_eq_some_iff.mp leads
      refine not_mem_topIds_of_member distinct (List.mem_of_getElem? isMember) ?_
      cases rest with
      | nil =>
          cases leadsOn
          exact isOwned
      | cons next rest =>
          obtain ⟨below, isBelow, leadsToFound⟩ := descendant?_cons_eq_some_iff.mp leadsOn
          exact ids_subset_ownedIds (List.mem_of_getElem? isBelow)
            (ids_subset_of_descendant? leadsToFound (found.ownedIds_subset_ids isOwned))

namespace Inheriting

/-- An edge below the top keeps the top. -/
theorem Flows.sameTop
    {paths : List (DeclId × Path)}
    {before after : Inheriting}
    {edge : Edge}
    (flows : Flows paths before edge after)
    (inner : InnerEnds paths edge) :
    SameTop before.root after.root := by
  refine flows.root_induction (.refl before.root) ?_ ?_
  · intro ancestorPath descendantPath ancestor descendant meets
    obtain ⟨-, descendantInner⟩ := meets.inner inner
    have isRelinked := relinked_received before edge ancestor descendant
    obtain ⟨groups, infoEq⟩ :=
      (Regrouped.of_sortMembers
        (received before edge ancestor descendant).target).info_eq
    exact
      ⟨.replaceAt descendantInner meets.descendant_found isRelinked,
        .replaceAt descendantInner meets.descendant_found
          (isRelinked.trans ⟨groups, _, _, infoEq⟩)⟩
  · intro ancestorPath descendantPath ancestor descendant meets middle found sameTop leads
    obtain ⟨ancestorInner, -⟩ := meets.inner inner
    refine sameTop.trans (.replaceAt ancestorInner leads ?_)
    rw [linkBack, Declaration.info_updateInfo]
    exact relinked_linkBack _ _ _

end Inheriting

namespace Hierarchy

/-- A run along edges below the top keeps the top. -/
theorem sameTop_flowAlong
    {root : Declaration}
    {supply : IdSupply}
    {edges : List Edge}
    (inner : ∀ edge ∈ edges, Inheriting.InnerEnds root.childPaths edge) :
    SameTop root (flowAlong root supply edges).root := by
  refine flowAlong_induction
    (motive := fun now => SameTop root now.root) (.refl root) ?_
  intro before after edge isEdge flows sameTop
  exact sameTop.trans (flows.sameTop (inner edge isEdge))

end Hierarchy

end ApiTree.Decl
