import ApiTree.Proofs.Decl.Everywhere
import ApiTree.Proofs.Hierarchy.Evolution

namespace ApiTree.Decl

/-!
# Facts that links do not touch

Following an edge changes links and groups of the nodes it finds, and puts what a
class has received in the place of the class.  So a fact about nodes that depends
on neither links nor groups holds everywhere afterwards if it held everywhere
before and holds everywhere in what the class has received.
-/

/-- That a property depends on neither groups nor links between classes. -/
def Relinkable (holds : Info → Prop) : Prop :=
  ∀ before after, Relinked before after → holds before → holds after

variable
    {holds : Info → Prop}

/-- Members and groups of a declaration change together. -/
theorem Regrouped.everywhere
    {before after : Declaration}
    (regrouped : Regrouped before after)
    (relinkable : Relinkable holds)
    (everywhere : before.Everywhere holds)
    (members : ∀ child ∈ after.children, child.Everywhere holds) :
    after.Everywhere holds := by
  obtain ⟨atTop, -, inSignatures, inParameters⟩ :=
    Declaration.everywhere_iff.mp everywhere
  obtain ⟨groups, infoEq⟩ := regrouped.info_eq
  refine Declaration.everywhere_iff.mpr ⟨?_, members, ?_, ?_⟩
  · exact relinkable _ _ ⟨groups, _, _, infoEq⟩ atTop
  · rw [regrouped.signatures_eq]
    exact inSignatures
  · rw [regrouped.parameters_eq]
    exact inParameters

theorem Declaration.Everywhere.relinked
    {declaration : Declaration}
    (everywhere : declaration.Everywhere holds)
    (relinkable : Relinkable holds)
    {change : Info → Info}
    (relinked : Relinked declaration.info (change declaration.info)) :
    (declaration.updateInfo change).Everywhere holds :=
  everywhere.updateInfo
    (relinkable _ _ relinked (Declaration.everywhere_iff.mp everywhere).1)

namespace Inheriting

variable
    {paths : List (DeclId × Path)}
    {before after : Inheriting}
    {edge : Edge}

theorem relinked_linkTo
    (ancestor : DeclId)
    (name : String)
    (info : Info) :
    Relinked info
      { info with
        extendedTypes := info.extendedTypes ++ [⟨name, some ancestor⟩] } :=
  ⟨info.groups, _, info.extendedBy, rfl⟩

theorem relinked_linkBack
    (descendant : DeclId)
    (name : String)
    (info : Info) :
    Relinked info
      { info with
        extendedBy := info.extendedBy ++ [⟨name, some descendant⟩] } :=
  ⟨info.groups, info.extendedTypes, _, rfl⟩

/-- A class that opens for members is linked to its ancestor and nothing else. -/
theorem everywhere_opening
    {ancestor descendant : Declaration}
    (relinkable : Relinkable holds)
    (everywhere : descendant.Everywhere holds) :
    (opening before edge ancestor descendant).target.Everywhere holds :=
  everywhere.relinked relinkable (relinked_linkTo _ _ _)

/-- What holds of all nodes, and of what a class receives, holds after an edge. -/
theorem Flows.everywhere_of_received
    (flows : Flows paths before edge after)
    (relinkable : Relinkable holds)
    (everywhere : before.root.Everywhere holds)
    (receives : ∀ ancestorPath descendantPath ancestor descendant,
      Meets paths before.root edge ancestorPath descendantPath
          ancestor descendant →
        (received before edge ancestor descendant).target.Everywhere holds) :
    after.root.Everywhere holds := by
  refine flows.root_induction everywhere ?_ ?_
  · intro ancestorPath descendantPath ancestor descendant meets
    have receivedHolds := receives _ _ _ _ meets
    obtain ⟨-, inChildren, -⟩ := Declaration.everywhere_iff.mp receivedHolds
    refine ⟨everywhere.replaceAt meets.descendant_found receivedHolds,
      everywhere.replaceAt meets.descendant_found ?_⟩
    refine (Regrouped.of_sortMembers _).everywhere relinkable receivedHolds ?_
    rw [Declaration.children_sortMembers]
    exact inChildren
  · intro ancestorPath descendantPath ancestor descendant _ middle found
      middleHolds leads
    exact middleHolds.replaceAt leads
      ((middleHolds.descendant? leads).relinked relinkable
        (relinked_linkBack _ _ _))

end Inheriting

end ApiTree.Decl
