import ApiTree.Proofs.Hierarchy.Evolution

namespace ApiTree.Decl

/-!
# How members are presented

A declaration presents its members in groups.  What is said of the groups of a
declaration and of its members holds throughout a tree after members have flowed
along an edge if it holds throughout the tree before and throughout the class
that received them.
-/

/-- A property of the groups of a declaration and of the members they list. -/
abbrev Presentation : Type := List Group → List Info → Prop

/-- That links between classes, and the groups of members, do not matter. -/
def Steady (good : Presentation) : Prop :=
  ∀ groups before after, List.Forall₂ Relinked before after →
    good groups before → good groups after

/-- That the order of groups and of their entries does not matter. -/
def Sortable (good : Presentation) : Prop :=
  ∀ (declaration : Declaration) (members : List Info),
    good declaration.info.groups members →
      good declaration.sortMembers.info.groups members

namespace Declaration

variable
    {good : Presentation}

/-- That a declaration presents its members well. -/
def Presents
    (good : Presentation)
    (declaration : Declaration) :
    Prop :=
  good declaration.info.groups (declaration.children.map info)

/-- That every node presents its members well. -/
def PresentsThroughout
    (good : Presentation)
    (declaration : Declaration) :
    Prop :=
  ∀ node ∈ declaration.nodes, node.Presents good

/-- That every node but the one at the top presents its members well. -/
def PresentsBelow
    (good : Presentation)
    (declaration : Declaration) :
    Prop :=
  ∀ node ∈ declaration.owned, node.Presents good

theorem presentsThroughout_iff
    {declaration : Declaration} :
    declaration.PresentsThroughout good ↔
      declaration.Presents good ∧ declaration.PresentsBelow good := by
  simp [PresentsThroughout, PresentsBelow, nodes_eq_cons_owned]

/-- What is presented below the top is presented throughout what the top owns. -/
theorem presentsBelow_iff
    {declaration : Declaration} :
    declaration.PresentsBelow good ↔
      (∀ child ∈ declaration.children, child.PresentsThroughout good) ∧
        (∀ signature ∈ declaration.signatures,
          signature.PresentsThroughout good) ∧
        (∀ parameter ∈ declaration.parameters,
          parameter.PresentsThroughout good) := by
  simp only [PresentsBelow, PresentsThroughout, owned, List.mem_append,
    List.mem_flatMap]
  constructor
  · intro below
    exact
      ⟨fun child isChild node isNode =>
          below node (.inl ⟨child, isChild, isNode⟩),
        fun signature isSignature node isNode =>
          below node (.inr (.inl ⟨signature, isSignature, isNode⟩)),
        fun parameter isParameter node isNode =>
          below node (.inr (.inr ⟨parameter, isParameter, isNode⟩))⟩
  · rintro ⟨inChildren, inSignatures, inParameters⟩ node
      (⟨child, isChild, isNode⟩ | ⟨signature, isSignature, isNode⟩ |
        ⟨parameter, isParameter, isNode⟩)
    · exact inChildren child isChild node isNode
    · exact inSignatures signature isSignature node isNode
    · exact inParameters parameter isParameter node isNode

theorem PresentsBelow.child
    {declaration child : Declaration}
    (below : declaration.PresentsBelow good)
    (isChild : child ∈ declaration.children) :
    child.PresentsThroughout good :=
  (presentsBelow_iff.mp below).1 child isChild

theorem PresentsThroughout.below
    {declaration : Declaration}
    (throughout : declaration.PresentsThroughout good) :
    declaration.PresentsBelow good :=
  (presentsThroughout_iff.mp throughout).2

/-- What presents its members well throughout does so at the end of every path. -/
theorem PresentsThroughout.descendant?
    {declaration found : Declaration}
    {path : Path}
    (throughout : declaration.PresentsThroughout good)
    (leads : declaration.descendant? path = some found) :
    found.PresentsThroughout good := by
  induction path generalizing declaration with
  | nil =>
      cases leads
      exact throughout
  | cons index rest inductionHypothesis =>
      obtain ⟨child, isChild, leadsOn⟩ :=
        descendant?_cons_eq_some_iff.mp leads
      exact inductionHypothesis
        (throughout.below.child (List.mem_of_getElem? isChild)) leadsOn

theorem PresentsBelow.descendant?
    {declaration found : Declaration}
    {path : Path}
    (below : declaration.PresentsBelow good)
    (inner : path ≠ [])
    (leads : declaration.descendant? path = some found) :
    found.PresentsThroughout good := by
  cases path with
  | nil =>
      exact (inner rfl).elim
  | cons index rest =>
      obtain ⟨child, isChild, leadsOn⟩ :=
        descendant?_cons_eq_some_iff.mp leads
      exact (below.child (List.mem_of_getElem? isChild)).descendant? leadsOn

/-- That a declaration has neither members nor groups. -/
def Bare : Presentation :=
  fun groups infos => groups = [] ∧ infos = []

/-- What has no members presents them well if there is nothing to present. -/
theorem PresentsThroughout.of_bare
    {declaration : Declaration}
    (empty : good [] [])
    (bare : declaration.PresentsThroughout Bare) :
    declaration.PresentsThroughout good := by
  intro node isNode
  obtain ⟨noGroups, noMembers⟩ := bare node isNode
  rw [Presents, noGroups, noMembers]
  exact empty

theorem bare_ofInfo
    {info : Info}
    (noGroups : info.groups = []) :
    (ofInfo info).PresentsThroughout Bare :=
  presentsThroughout_iff.mpr
    ⟨⟨noGroups, rfl⟩, presentsBelow_iff.mpr
      ⟨by simp [ofInfo], by simp [ofInfo], by simp [ofInfo]⟩⟩

/-! ## Changing one node -/

/-- A change at the top that keeps its groups changes nothing that is presented. -/
theorem presentsThroughout_updateInfo_iff
    {change : Info → Info}
    {declaration : Declaration}
    (keeps : (change declaration.info).groups = declaration.info.groups) :
    (declaration.updateInfo change).PresentsThroughout good ↔
      declaration.PresentsThroughout good := by
  rw [presentsThroughout_iff, presentsThroughout_iff, Presents, Presents,
    info_updateInfo, children_updateInfo, keeps]
  cases declaration
  rfl

/-- What a declaration presents does not depend on its signatures. -/
theorem PresentsThroughout.addSignature
    {declaration signature : Declaration}
    (throughout : declaration.PresentsThroughout good)
    (signaturePresents : signature.PresentsThroughout good) :
    (declaration.addSignature signature).PresentsThroughout good := by
  obtain ⟨atTop, below⟩ := presentsThroughout_iff.mp throughout
  obtain ⟨inChildren, inSignatures, inParameters⟩ := presentsBelow_iff.mp below
  cases declaration
  refine presentsThroughout_iff.mpr
    ⟨atTop, presentsBelow_iff.mpr ⟨inChildren, ?_, inParameters⟩⟩
  exact List.forall_mem_append.mpr
    ⟨inSignatures, List.forall_mem_singleton.mpr signaturePresents⟩

theorem PresentsBelow.addChild
    {declaration child : Declaration}
    (below : declaration.PresentsBelow good)
    (childPresents : child.PresentsThroughout good) :
    (declaration.addChild child).PresentsBelow good := by
  obtain ⟨inChildren, inSignatures, inParameters⟩ := presentsBelow_iff.mp below
  cases declaration
  refine presentsBelow_iff.mpr ⟨?_, inSignatures, inParameters⟩
  exact List.forall_mem_append.mpr
    ⟨inChildren, List.forall_mem_singleton.mpr childPresents⟩

theorem PresentsThroughout.sortMembers
    {declaration : Declaration}
    (sortable : Sortable good)
    (throughout : declaration.PresentsThroughout good) :
    declaration.sortMembers.PresentsThroughout good := by
  obtain ⟨atTop, below⟩ := presentsThroughout_iff.mp throughout
  refine presentsThroughout_iff.mpr ⟨?_, ?_⟩
  · rw [Presents, children_sortMembers]
    exact sortable declaration _ atTop
  · cases declaration
    exact below

/-- Replacing one member by another relinks the members at most, if it relinks that one. -/
theorem relinked_setChild
    {declaration child changed : Declaration}
    {index : Nat}
    (found : declaration.children[index]? = some child)
    (relinked : Relinked child.info changed.info) :
    List.Forall₂ Relinked (declaration.children.map info)
      ((declaration.children.set index changed).map info) := by
  obtain ⟨before, after, shape, -, setShape⟩ := exists_around found
  rw [setShape, shape, List.map_append, List.map_cons, List.map_append, List.map_cons]
  exact List.rel_append (List.forall₂_same.mpr fun one _ => .refl one)
    (.cons relinked (List.forall₂_same.mpr fun one _ => .refl one))

/-- Replacing one member by another of nearly the same information. -/
theorem Presents.setChild
    {declaration child changed : Declaration}
    {index : Nat}
    (presents : declaration.Presents good)
    (steady : Steady good)
    (found : declaration.children[index]? = some child)
    (relinked : Relinked child.info changed.info) :
    (declaration.setChildren
      (declaration.children.set index changed)).Presents good := by
  unfold Presents at presents ⊢
  rw [info_setChildren, children_setChildren]
  exact steady _ _ _ (relinked_setChild found relinked) presents

theorem PresentsBelow.setChild
    {declaration changed : Declaration}
    (below : declaration.PresentsBelow good)
    (index : Nat)
    (changedPresents : changed.PresentsThroughout good) :
    (declaration.setChildren
      (declaration.children.set index changed)).PresentsBelow good := by
  obtain ⟨inChildren, inSignatures, inParameters⟩ := presentsBelow_iff.mp below
  cases declaration
  refine presentsBelow_iff.mpr ⟨?_, inSignatures, inParameters⟩
  intro child isChild
  rcases List.mem_or_eq_of_mem_set isChild with wasChild | rfl
  · exact inChildren child wasChild
  · exact changedPresents

theorem relinked_replaceAt
    {declaration found replacement : Declaration}
    {path : Path}
    (leads : declaration.descendant? path = some found)
    (relinked : Relinked found.info replacement.info) :
    Relinked declaration.info (declaration.replaceAt replacement path).info := by
  cases path with
  | nil =>
      cases leads
      exact relinked
  | cons index rest =>
      rw [info_replaceAt_cons]
      exact .refl declaration.info

theorem PresentsThroughout.replaceAt
    {declaration found replacement : Declaration}
    {path : Path}
    (throughout : declaration.PresentsThroughout good)
    (steady : Steady good)
    (leads : declaration.descendant? path = some found)
    (relinked : Relinked found.info replacement.info)
    (replacementPresents : replacement.PresentsThroughout good) :
    (declaration.replaceAt replacement path).PresentsThroughout good := by
  induction path generalizing declaration with
  | nil =>
      exact replacementPresents
  | cons index rest inductionHypothesis =>
      obtain ⟨child, isChild, leadsOn⟩ :=
        descendant?_cons_eq_some_iff.mp leads
      obtain ⟨atTop, below⟩ := presentsThroughout_iff.mp throughout
      rw [replaceAt_cons isChild]
      refine presentsThroughout_iff.mpr
        ⟨atTop.setChild steady isChild (relinked_replaceAt leadsOn relinked),
          below.setChild index ?_⟩
      exact inductionHypothesis (below.child (List.mem_of_getElem? isChild))
        leadsOn

/-- Replacing a node below the top keeps what is presented below the top. -/
theorem PresentsBelow.replaceAt
    {declaration found replacement : Declaration}
    {path : Path}
    (below : declaration.PresentsBelow good)
    (steady : Steady good)
    (inner : path ≠ [])
    (leads : declaration.descendant? path = some found)
    (relinked : Relinked found.info replacement.info)
    (replacementPresents : replacement.PresentsThroughout good) :
    (declaration.replaceAt replacement path).PresentsBelow good := by
  cases path with
  | nil =>
      exact (inner rfl).elim
  | cons index rest =>
      obtain ⟨child, isChild, leadsOn⟩ :=
        descendant?_cons_eq_some_iff.mp leads
      rw [replaceAt_cons isChild]
      exact below.setChild index
        ((below.child (List.mem_of_getElem? isChild)).replaceAt steady leadsOn
          relinked replacementPresents)

/-! ## Changing every node -/

theorem nodes_mapInfo
    (change : Info → Info)
    (declaration : Declaration) :
    (declaration.mapInfo change).nodes =
      declaration.nodes.map (mapInfo change) := by
  induction declaration using ownedInduction with
  | node info children signatures parameters
      childrenHold signaturesHold parametersHold =>
      rw [mapInfo_node, nodes_eq_cons_owned, nodes_eq_cons_owned, List.map_cons,
        mapInfo_node]
      simp only [owned, children_node, signatures_node, parameters_node,
        List.flatMap_map, List.map_append, List.map_flatMap]
      rw [List.flatMap_congr childrenHold, List.flatMap_congr signaturesHold,
        List.flatMap_congr parametersHold]

theorem children_mapInfo
    (change : Info → Info)
    (declaration : Declaration) :
    (declaration.mapInfo change).children =
      declaration.children.map (mapInfo change) := by
  cases declaration
  rw [mapInfo_node]
  rfl

/-- A changed node presents the changed information of its members. -/
theorem presents_mapInfo_iff
    {change : Info → Info}
    {declaration : Declaration} :
    (declaration.mapInfo change).Presents good ↔
      good (change declaration.info).groups
        ((declaration.children.map info).map change) := by
  rw [Presents, info_mapInfo, children_mapInfo, List.map_map, List.map_map]
  simp only [Function.comp_def, info_mapInfo]

theorem presentsThroughout_mapInfo_iff
    {change : Info → Info}
    {declaration : Declaration} :
    (declaration.mapInfo change).PresentsThroughout good ↔
      ∀ node ∈ declaration.nodes,
        good (change node.info).groups
          ((node.children.map info).map change) := by
  simp only [PresentsThroughout, nodes_mapInfo, List.forall_mem_map,
    presents_mapInfo_iff]

end Declaration

namespace Injecting

variable
    {good : Presentation}
    {member : Declaration}

/-- A copy presents what the renamed member presents. -/
theorem presentsThroughout_copyOf
    {supply : IdSupply}
    (distinct : member.ids.Nodup)
    (renamed : (member.rename
      (member.assign supply).2.1.apply).PresentsThroughout good)
    (ancestorName : String) :
    (copyOf ancestorName supply member).PresentsThroughout good := by
  rw [copyOf, stamp, Declaration.presentsThroughout_updateInfo_iff (by rfl),
    Declaration.renumber_eq_rename distinct]
  exact renamed

/-- What fills in a member presents what the renamed member presents. -/
theorem presentsThroughout_fillingOf
    {supply : IdSupply}
    {own : Declaration}
    (distinct : member.ids.Nodup)
    (renamed : (member.rename
      ((renamedTo own member).assignOwned
        supply).2.1.apply).PresentsThroughout good)
    (ancestorName : String) :
    (fillingOf ancestorName supply own member).PresentsThroughout good := by
  have ownedDistinct := nodup_ownedIds_renamedTo distinct own
  rw [fillingOf, stamp, Declaration.presentsThroughout_updateInfo_iff (by rfl),
    Declaration.renumberOwned_eq_rename ownedDistinct,
    Declaration.presentsThroughout_updateInfo_iff (by rfl)]
  generalize ((renamedTo own member).assignOwned supply).2.1.apply = names
    at renamed ⊢
  -- The number at the top is not part of what is presented.
  have sameRenamed :
      (renamedTo own member).rename names =
        (member.rename names).updateInfo
          fun info => { info with id := names own.id } := by
    cases member
    simp [renamedTo, Declaration.rename, Declaration.updateInfo,
      Declaration.mapInfo_node, Declaration.renameInfo]
  rw [sameRenamed, Declaration.presentsThroughout_updateInfo_iff (by rfl)]
  exact renamed

/-- A class presents its members throughout if it does at the top and in each. -/
theorem presentsThroughout_of_regrouped
    {before after : Declaration}
    (regrouped : Regrouped before after)
    (throughout : before.PresentsThroughout good)
    (atTop : after.Presents good)
    (members : ∀ child ∈ after.children, child.PresentsThroughout good) :
    after.PresentsThroughout good := by
  obtain ⟨-, inSignatures, inParameters⟩ :=
    Declaration.presentsBelow_iff.mp throughout.below
  refine Declaration.presentsThroughout_iff.mpr
    ⟨atTop, Declaration.presentsBelow_iff.mpr ⟨members, ?_, ?_⟩⟩
  · rw [regrouped.signatures_eq]
    exact inSignatures
  · rw [regrouped.parameters_eq]
    exact inParameters

end Injecting

namespace Inheriting

variable
    {good : Presentation}
    {paths : List (DeclId × Path)}
    {before after : Inheriting}
    {edge : Edge}

/-- That both ends of an edge are below the top. -/
def InnerEnds
    (paths : List (DeclId × Path))
    (edge : Edge) :
    Prop :=
  paths.lookup edge.1 ≠ some [] ∧ paths.lookup edge.2 ≠ some []

theorem Meets.inner
    {root ancestor descendant : Declaration}
    {ancestorPath descendantPath : Path}
    (meets : Meets paths root edge ancestorPath descendantPath
      ancestor descendant)
    (inner : InnerEnds paths edge) :
    ancestorPath ≠ [] ∧ descendantPath ≠ [] := by
  constructor
  · rintro rfl
    exact inner.1 meets.ancestor_path
  · rintro rfl
    exact inner.2 meets.descendant_path

/-- What receives members differs at its top in groups and links. -/
theorem relinked_received
    (before : Inheriting)
    (edge : Edge)
    (ancestor descendant : Declaration) :
    Relinked descendant.info
      (received before edge ancestor descendant).target.info := by
  obtain ⟨groups, infoEq⟩ :=
    (regrouped_received before edge ancestor descendant).info_eq
  rw [linkTo, Declaration.info_updateInfo] at infoEq
  exact ⟨groups, _, descendant.info.extendedBy, infoEq⟩

/--
An edge keeps what is presented below the top if the class that receives members
along it presents them well throughout.
-/
theorem Flows.presentsBelow
    (flows : Flows paths before edge after)
    (steady : Steady good)
    (sortable : Sortable good)
    (inner : InnerEnds paths edge)
    (below : before.root.PresentsBelow good)
    (receives : ∀ ancestorPath descendantPath ancestor descendant,
      Meets paths before.root edge ancestorPath descendantPath
          ancestor descendant →
        ancestor.PresentsThroughout good →
          descendant.PresentsThroughout good →
            (received before edge ancestor
              descendant).target.PresentsThroughout good) :
    after.root.PresentsBelow good := by
  refine flows.root_induction below ?_ ?_
  · intro ancestorPath descendantPath ancestor descendant meets
    obtain ⟨ancestorInner, descendantInner⟩ := meets.inner inner
    have receivedPresents := receives _ _ _ _ meets
      (below.descendant? ancestorInner meets.ancestor_found)
      (below.descendant? descendantInner meets.descendant_found)
    have isRelinked := relinked_received before edge ancestor descendant
    obtain ⟨groups, infoEq⟩ :=
      (Regrouped.of_sortMembers
        (received before edge ancestor descendant).target).info_eq
    exact
      ⟨below.replaceAt steady descendantInner meets.descendant_found isRelinked
          receivedPresents,
        below.replaceAt steady descendantInner meets.descendant_found
          (isRelinked.trans ⟨groups, _, _, infoEq⟩)
          (receivedPresents.sortMembers sortable)⟩
  · intro ancestorPath descendantPath ancestor descendant meets middle found
      middleBelow leads
    obtain ⟨ancestorInner, -⟩ := meets.inner inner
    refine middleBelow.replaceAt steady ancestorInner leads ?_ ?_
    · rw [linkBack, Declaration.info_updateInfo]
      exact ⟨found.info.groups, found.info.extendedTypes, _, rfl⟩
    · rw [linkBack, Declaration.presentsThroughout_updateInfo_iff (by rfl)]
      exact middleBelow.descendant? ancestorInner leads

end Inheriting

end ApiTree.Decl
