import ApiTree.Proofs.Hierarchy.Attribution
import ApiTree.Proofs.Hierarchy.Presentation

namespace ApiTree.Decl

/-!
# What nodes are composed of

The kind of a node decides what it owns: a callable has signatures, a signature has
parameters, and neither signatures nor parameters have members.  A copy is composed
as what it is a copy of, and members are copied only among members, so a tree stays
well composed whatever flows along its edges.
-/

namespace Kind

/-- The kinds of members. -/
def ofMembers : List Kind :=
  [.enumeration, .enumMember, .classDecl, .constructor, .property, .method]

/-- The kinds of declarations that may have members. -/
def ofOwners : List Kind :=
  .project :: ofMembers

theorem mem_ofOwners_of_member
    {kind : Kind}
    (isMember : kind ∈ ofMembers) :
    kind ∈ ofOwners :=
  List.mem_cons_of_mem _ isMember

end Kind

/-- That a node owns what nodes of its kind own, each of a kind that fits. -/
structure Composed (node : Declaration) : Prop where
  children_kind : ∀ child ∈ node.children, child.kind ∈ Kind.ofMembers
  signatures_kind : ∀ signature ∈ node.signatures,
    signature.kind = .callSignature
  parameters_kind : ∀ parameter ∈ node.parameters, parameter.kind = .parameter
  /-- Methods and constructors have signatures, and nothing else has any. -/
  signed_iff : node.signatures ≠ [] ↔
    node.kind = .method ∨ node.kind = .constructor
  /-- Nothing but signatures has parameters. -/
  parametrized : node.parameters ≠ [] → node.kind = .callSignature
  childless : node.kind = .callSignature ∨ node.kind = .parameter →
    node.children = []

/-- What may own members is neither a signature nor a parameter. -/
theorem Composed.of_children
    {before after : Declaration}
    (composed : Composed before)
    (owns : before.kind ∈ Kind.ofOwners)
    (kind_eq : after.kind = before.kind)
    (signatures_eq : after.signatures = before.signatures)
    (parameters_eq : after.parameters = before.parameters)
    (children_kind : ∀ child ∈ after.children, child.kind ∈ Kind.ofMembers) :
    Composed after where
  children_kind := children_kind
  signatures_kind := signatures_eq ▸ composed.signatures_kind
  parameters_kind := parameters_eq ▸ composed.parameters_kind
  signed_iff := by
    rw [signatures_eq, kind_eq]
    exact composed.signed_iff
  parametrized := by
    rw [parameters_eq, kind_eq]
    exact composed.parametrized
  childless := by
    rw [kind_eq]
    rintro (isSignature | isParameter)
    · rw [isSignature] at owns
      exact absurd owns (by decide)
    · rw [isParameter] at owns
      exact absurd owns (by decide)

namespace Declaration

theorem kind_sortMembers (declaration : Declaration) :
    declaration.sortMembers.kind = declaration.kind := by
  cases declaration
  rfl

/-- That every node is composed as nodes of its kind are. -/
def WellComposed (declaration : Declaration) : Prop :=
  ∀ node ∈ declaration.nodes, Composed node

variable
    {declaration : Declaration}

/-- A declaration is well composed if its top is and all that the top owns. -/
theorem wellComposed_iff :
    declaration.WellComposed ↔
      Composed declaration ∧
        (∀ child ∈ declaration.children, child.WellComposed) ∧
        (∀ signature ∈ declaration.signatures, signature.WellComposed) ∧
        (∀ parameter ∈ declaration.parameters, parameter.WellComposed) := by
  simp only [WellComposed, nodes_eq_cons_owned declaration, owned,
    List.forall_mem_cons, List.forall_mem_append, List.mem_flatMap]
  constructor
  · rintro ⟨atTop, inChildren, inSignatures, inParameters⟩
    exact
      ⟨atTop,
        fun child isChild node isNode =>
          inChildren node ⟨child, isChild, isNode⟩,
        fun signature isSignature node isNode =>
          inSignatures node ⟨signature, isSignature, isNode⟩,
        fun parameter isParameter node isNode =>
          inParameters node ⟨parameter, isParameter, isNode⟩⟩
  · rintro ⟨atTop, inChildren, inSignatures, inParameters⟩
    refine ⟨atTop, ?_, ?_, ?_⟩
    · rintro node ⟨child, isChild, isNode⟩
      exact inChildren child isChild node isNode
    · rintro node ⟨signature, isSignature, isNode⟩
      exact inSignatures signature isSignature node isNode
    · rintro node ⟨parameter, isParameter, isNode⟩
      exact inParameters parameter isParameter node isNode

namespace WellComposed

theorem atTop
    (composed : declaration.WellComposed) :
    Composed declaration :=
  composed declaration declaration.mem_nodes

theorem child
    {child : Declaration}
    (composed : declaration.WellComposed)
    (isChild : child ∈ declaration.children) :
    child.WellComposed :=
  (wellComposed_iff.mp composed).2.1 child isChild

/-- No signature or parameter is a member, nor is anything that it owns. -/
theorem kind_not_mem_of_part
    (composed : declaration.WellComposed)
    (isPart : declaration.kind = .callSignature ∨ declaration.kind = .parameter) :
    ∀ info ∈ declaration.infos, info.kind ∉ Kind.ofMembers := by
  induction declaration using ownedInduction with
  | node top children signatures parameters _ signaturesHold parametersHold =>
      obtain ⟨atTop, -, inSignatures, inParameters⟩ := wellComposed_iff.mp composed
      obtain rfl : children = [] := atTop.childless isPart
      rw [infos_node, List.forall_mem_cons, List.flatMap_nil, List.nil_append,
        List.forall_mem_append, List.forall_mem_flatMap, List.forall_mem_flatMap]
      refine ⟨?_, fun signature isSignature => ?_, fun parameter isParameter => ?_⟩
      · rcases isPart with isKind | isKind
        · rw [show top.kind = .callSignature from isKind]
          decide
        · rw [show top.kind = .parameter from isKind]
          decide
      · exact signaturesHold signature isSignature (inSignatures signature isSignature)
          (.inl (atTop.signatures_kind signature isSignature))
      · exact parametersHold parameter isParameter (inParameters parameter isParameter)
          (.inr (atTop.parameters_kind parameter isParameter))

/-- What a declaration owns is in one of its members if it is a member itself. -/
theorem exists_child_of_owned
    {info : Info}
    (composed : declaration.WellComposed)
    (isOwned : info ∈ declaration.ownedInfos)
    (isMember : info.kind ∈ Kind.ofMembers) :
    ∃ child ∈ declaration.children, info ∈ child.infos := by
  obtain ⟨atTop, -, inSignatures, inParameters⟩ := wellComposed_iff.mp composed
  simp only [ownedInfos, owned, List.map_append, List.map_flatMap, List.mem_append,
    List.mem_flatMap] at isOwned
  rcases isOwned with inChild | ⟨part, isPart, inPart⟩ | ⟨part, isPart, inPart⟩
  · exact inChild
  · exact ((inSignatures part isPart).kind_not_mem_of_part
      (.inl (atTop.signatures_kind part isPart)) info inPart isMember).elim
  · exact ((inParameters part isPart).kind_not_mem_of_part
      (.inr (atTop.parameters_kind part isPart)) info inPart isMember).elim

/-- A declaration with other members is well composed if the members are. -/
theorem of_children
    {after : Declaration}
    (composed : declaration.WellComposed)
    (owns : declaration.kind ∈ Kind.ofOwners)
    (kind_eq : after.kind = declaration.kind)
    (signatures_eq : after.signatures = declaration.signatures)
    (parameters_eq : after.parameters = declaration.parameters)
    (children : ∀ child ∈ after.children,
      child.kind ∈ Kind.ofMembers ∧ child.WellComposed) :
    after.WellComposed := by
  obtain ⟨atTop, -, inSignatures, inParameters⟩ := wellComposed_iff.mp composed
  refine wellComposed_iff.mpr
    ⟨atTop.of_children owns kind_eq signatures_eq parameters_eq
        fun child isChild => (children child isChild).1,
      fun child isChild => (children child isChild).2, ?_, ?_⟩
  · rw [signatures_eq]
    exact inSignatures
  · rw [parameters_eq]
    exact inParameters

/-- The members of what is well composed have the kinds of members. -/
theorem members
    (composed : declaration.WellComposed) :
    ∀ child ∈ declaration.children,
      child.kind ∈ Kind.ofMembers ∧ child.WellComposed :=
  fun child isChild =>
    ⟨composed.atTop.children_kind child isChild, composed.child isChild⟩

theorem updateInfo
    {change : Info → Info}
    (composed : declaration.WellComposed)
    (keeps : (change declaration.info).kind = declaration.info.kind) :
    (declaration.updateInfo change).WellComposed := by
  have sameKind : (declaration.updateInfo change).kind = declaration.kind := by
    rw [kind, info_updateInfo, keeps]
    rfl
  cases declaration
  obtain ⟨atTop, below⟩ := wellComposed_iff.mp composed
  refine wellComposed_iff.mpr
    ⟨{ atTop with signed_iff := ?_, parametrized := ?_, childless := ?_ }, below⟩
  · rw [sameKind]
    exact atTop.signed_iff
  · rw [sameKind]
    exact atTop.parametrized
  · rw [sameKind]
    exact atTop.childless

/-- What stands at a path is well composed, and it is a member or the top itself. -/
theorem descendant?
    {found : Declaration}
    {path : Path}
    (composed : declaration.WellComposed)
    (owns : declaration.kind ∈ Kind.ofOwners)
    (leads : declaration.descendant? path = some found) :
    found.WellComposed ∧ found.kind ∈ Kind.ofOwners := by
  induction path generalizing declaration with
  | nil =>
      cases leads
      exact ⟨composed, owns⟩
  | cons index rest inductionHypothesis =>
      obtain ⟨child, found, leadsOn⟩ := descendant?_cons_eq_some_iff.mp leads
      obtain ⟨isMember, childComposed⟩ :=
        composed.members child (List.mem_of_getElem? found)
      exact inductionHypothesis childComposed
        (Kind.mem_ofOwners_of_member isMember) leadsOn

/-- A node may be replaced by a well composed one of its kind. -/
theorem replaceAt
    {found replacement : Declaration}
    {path : Path}
    (composed : declaration.WellComposed)
    (owns : declaration.kind ∈ Kind.ofOwners)
    (leads : declaration.descendant? path = some found)
    (kind_eq : replacement.kind = found.kind)
    (replacementComposed : replacement.WellComposed) :
    (declaration.replaceAt replacement path).WellComposed ∧
      (declaration.replaceAt replacement path).kind = declaration.kind := by
  induction path generalizing declaration with
  | nil =>
      cases leads
      exact ⟨replacementComposed, kind_eq⟩
  | cons index rest inductionHypothesis =>
      obtain ⟨child, isChild, leadsOn⟩ := descendant?_cons_eq_some_iff.mp leads
      obtain ⟨isMember, childComposed⟩ :=
        composed.members child (List.mem_of_getElem? isChild)
      obtain ⟨changed, changedKind⟩ := inductionHypothesis childComposed
        (Kind.mem_ofOwners_of_member isMember) leadsOn
      rw [replaceAt_cons isChild]
      cases declaration
      refine ⟨composed.of_children owns rfl rfl rfl ?_, rfl⟩
      intro one isOne
      rcases List.mem_or_eq_of_mem_set isOne with wasChild | rfl
      · exact composed.members one wasChild
      · exact ⟨changedKind.symm ▸ isMember, changed⟩

end WellComposed

/-! ## Made nodes -/

/-- A node that owns nothing may be anything but a callable. -/
theorem wellComposed_ofInfo
    {info : Info}
    (unsigned : info.kind ≠ .method ∧ info.kind ≠ .constructor) :
    (ofInfo info).WellComposed := by
  refine wellComposed_iff.mpr
    ⟨{ children_kind := List.forall_mem_nil _
       signatures_kind := List.forall_mem_nil _
       parameters_kind := List.forall_mem_nil _
       signed_iff := ?_
       parametrized := fun parametrized => absurd rfl parametrized
       childless := fun _ => rfl },
      List.forall_mem_nil _, List.forall_mem_nil _, List.forall_mem_nil _⟩
  constructor
  · intro signed
    exact absurd rfl signed
  · rintro (isMethod | isConstructor)
    · exact absurd isMethod unsigned.1
    · exact absurd isConstructor unsigned.2

/-- A signature owns parameters. -/
theorem wellComposed_signature
    {info : Info}
    {parameters : List Declaration}
    (isSignature : info.kind = .callSignature)
    (kinds : ∀ parameter ∈ parameters,
      parameter.kind = .parameter ∧ parameter.WellComposed) :
    (node info [] [] parameters).WellComposed := by
  refine wellComposed_iff.mpr
    ⟨{ children_kind := List.forall_mem_nil _
       signatures_kind := List.forall_mem_nil _
       parameters_kind := fun parameter isParameter =>
        (kinds parameter isParameter).1
       signed_iff := ?_
       parametrized := fun _ => isSignature
       childless := fun _ => rfl },
      List.forall_mem_nil _, List.forall_mem_nil _,
      fun parameter isParameter => (kinds parameter isParameter).2⟩
  simp [kind, isSignature]

/-- A callable is well composed with one signature more. -/
theorem wellComposed_addSignature
    {signature : Declaration}
    (isCallable : declaration.kind = .method ∨ declaration.kind = .constructor)
    (unparametrized : declaration.parameters = [])
    (children : ∀ child ∈ declaration.children,
      child.kind ∈ Kind.ofMembers ∧ child.WellComposed)
    (signatures : ∀ one ∈ declaration.signatures,
      one.kind = .callSignature ∧ one.WellComposed)
    (isSignature : signature.kind = .callSignature)
    (composed : signature.WellComposed) :
    (declaration.addSignature signature).WellComposed := by
  cases declaration with
  | node info members own parameters =>
      obtain rfl : parameters = [] := unparametrized
      have all : ∀ one ∈ own ++ [signature],
          one.kind = .callSignature ∧ one.WellComposed :=
        List.forall_mem_append.mpr
          ⟨signatures, List.forall_mem_singleton.mpr ⟨isSignature, composed⟩⟩
      refine wellComposed_iff.mpr
        ⟨{ children_kind := fun child isChild => (children child isChild).1
           signatures_kind := fun one isOne => (all one isOne).1
           parameters_kind := List.forall_mem_nil _
           signed_iff := iff_of_true ?_ isCallable
           parametrized := fun parametrized => absurd rfl parametrized
           childless := ?_ },
          fun child isChild => (children child isChild).2,
          fun one isOne => (all one isOne).2, List.forall_mem_nil _⟩
      · exact List.append_ne_nil_of_right_ne_nil own (List.cons_ne_nil _ _)
      · have callable : info.kind = .method ∨ info.kind = .constructor := isCallable
        rintro (isOther | isOther)
        · rw [show info.kind = .callSignature from isOther] at callable
          exact absurd callable (by decide)
        · rw [show info.kind = .parameter from isOther] at callable
          exact absurd callable (by decide)

/-- A signature may join a callable. -/
theorem WellComposed.addSignature
    {signature : Declaration}
    (composed : declaration.WellComposed)
    (isCallable : declaration.kind = .method ∨ declaration.kind = .constructor)
    (isSignature : signature.kind = .callSignature)
    (signatureComposed : signature.WellComposed) :
    (declaration.addSignature signature).WellComposed := by
  obtain ⟨atTop, -, inSignatures, -⟩ := wellComposed_iff.mp composed
  refine wellComposed_addSignature isCallable ?_ composed.members
    (fun one isOne => ⟨atTop.signatures_kind one isOne, inSignatures one isOne⟩)
    isSignature signatureComposed
  by_cases parametrized : declaration.parameters = []
  · exact parametrized
  · rw [atTop.parametrized parametrized] at isCallable
    exact absurd isCallable (by decide)

/-- Nothing that is owned is the project. -/
theorem WellComposed.ne_project_of_owned
    {node : Declaration}
    (composed : declaration.WellComposed)
    (isOwned : node ∈ declaration.owned) :
    node.kind ≠ .project := by
  induction declaration using ownedInduction with
  | node info children signatures parameters
      childrenHold signaturesHold parametersHold =>
      obtain ⟨atTop, inChildren, inSignatures, inParameters⟩ :=
        wellComposed_iff.mp composed
      have inOne {one : Declaration} (notProject : one.kind ≠ .project)
          (below : node ∈ one.owned → node.kind ≠ .project)
          (isNode : node ∈ one.nodes) : node.kind ≠ .project := by
        rw [nodes_eq_cons_owned] at isNode
        rcases List.mem_cons.mp isNode with rfl | isBelow
        · exact notProject
        · exact below isBelow
      simp only [owned, List.mem_append, List.mem_flatMap] at isOwned
      rcases isOwned with ⟨one, isOne, isNode⟩ | ⟨one, isOne, isNode⟩ |
        ⟨one, isOne, isNode⟩
      · refine inOne ?_ (childrenHold one isOne (inChildren one isOne)) isNode
        intro isProject
        exact absurd (isProject ▸ atTop.children_kind one isOne) (by decide)
      · refine inOne ?_ (signaturesHold one isOne (inSignatures one isOne)) isNode
        rw [atTop.signatures_kind one isOne]
        decide
      · refine inOne ?_ (parametersHold one isOne (inParameters one isOne)) isNode
        rw [atTop.parameters_kind one isOne]
        decide

/-! ## Copies -/

theorem kind_mapInfo
    {change : Info → Info}
    (keeps : ∀ info, (change info).kind = info.kind)
    (declaration : Declaration) :
    (declaration.mapInfo change).kind = declaration.kind := by
  rw [kind, info_mapInfo, keeps]
  rfl

/-- What a node is composed of depends on kinds only. -/
theorem composed_mapInfo_iff
    {change : Info → Info}
    (keeps : ∀ info, (change info).kind = info.kind)
    (declaration : Declaration) :
    Composed (declaration.mapInfo change) ↔ Composed declaration := by
  have sameKind := kind_mapInfo keeps
  have sameTop := sameKind declaration
  cases declaration with
  | node info children signatures parameters =>
      rw [mapInfo_node] at sameTop ⊢
      constructor <;> intro composed
      · refine
          { children_kind := fun child isChild => sameKind child ▸
              composed.children_kind _ (List.mem_map_of_mem isChild)
            signatures_kind := fun signature isSignature => sameKind signature ▸
              composed.signatures_kind _ (List.mem_map_of_mem isSignature)
            parameters_kind := fun parameter isParameter =>
              sameKind parameter ▸
                composed.parameters_kind _ (List.mem_map_of_mem isParameter)
            signed_iff := ?_
            parametrized := ?_
            childless := ?_ }
        · simpa [sameTop] using composed.signed_iff
        · simpa [sameTop] using composed.parametrized
        · simpa [sameTop] using composed.childless
      · refine
          { children_kind := List.forall_mem_map.mpr fun child isChild =>
              (sameKind child).symm ▸ composed.children_kind child isChild
            signatures_kind := List.forall_mem_map.mpr
              fun signature isSignature => (sameKind signature).trans
                (composed.signatures_kind signature isSignature)
            parameters_kind := List.forall_mem_map.mpr
              fun parameter isParameter => (sameKind parameter).trans
                (composed.parameters_kind parameter isParameter)
            signed_iff := ?_
            parametrized := ?_
            childless := ?_ }
        · simpa [sameTop] using composed.signed_iff
        · simpa [sameTop] using composed.parametrized
        · simpa [sameTop] using composed.childless

theorem wellComposed_mapInfo_iff
    {change : Info → Info}
    (keeps : ∀ info, (change info).kind = info.kind)
    (declaration : Declaration) :
    (declaration.mapInfo change).WellComposed ↔ declaration.WellComposed := by
  simp only [WellComposed, nodes_mapInfo, List.forall_mem_map,
    composed_mapInfo_iff keeps]

/-- Declarations of one likeness are composed alike. -/
theorem WellComposed.of_likeness_eq
    {original : Declaration}
    (composed : original.WellComposed)
    (same : declaration.likeness = original.likeness) :
    declaration.WellComposed ∧ declaration.kind = original.kind := by
  have keeps : ∀ info : Info, info.likeness.kind = info.kind := fun _ => rfl
  constructor
  · rw [← wellComposed_mapInfo_iff keeps, ← likeness, same, likeness,
      wellComposed_mapInfo_iff keeps]
    exact composed
  · rw [← kind_mapInfo keeps, ← likeness, same, likeness, kind_mapInfo keeps]

end Declaration

/-! ## Members that flow -/

namespace Inheriting

/-- A class that received members is well composed if it and the ancestor were. -/
theorem wellComposed_received
    (before : Inheriting)
    (edge : Edge)
    {ancestor descendant : Declaration}
    (ancestorComposed : ancestor.WellComposed)
    (descendantComposed : descendant.WellComposed)
    (owns : descendant.kind ∈ Kind.ofOwners) :
    let target := (received before edge ancestor descendant).target
    target.WellComposed ∧ target.kind = descendant.kind := by
  have regrouped := regrouped_received before edge ancestor descendant
  have derived := derives_received before edge ancestor descendant
  obtain ⟨groups, infoEq⟩ := regrouped.info_eq
  have kindEq : (received before edge ancestor descendant).target.kind =
      descendant.kind := by
    rw [Declaration.kind, infoEq, linkTo, Declaration.info_updateInfo]
    rfl
  refine ⟨descendantComposed.of_children owns kindEq ?_ ?_ ?_, kindEq⟩
  · rw [regrouped.signatures_eq]
    cases descendant
    rfl
  · rw [regrouped.parameters_eq]
    cases descendant
    rfl
  · intro member isMember
    rcases derived member isMember with wasMember | ⟨original, isOriginal, derives⟩
    · exact descendantComposed.members member wasMember
    · obtain ⟨originalKind, originalComposed⟩ :=
        ancestorComposed.members original isOriginal
      obtain ⟨composed, sameKind⟩ :=
        originalComposed.of_likeness_eq derives.likeness_eq
      exact ⟨sameKind.symm ▸ originalKind, composed⟩

/-- Whatever flows along an edge, the tree stays well composed. -/
theorem Flows.wellComposed
    {paths : List (DeclId × Path)}
    {before after : Inheriting}
    {edge : Edge}
    (flows : Flows paths before edge after)
    (composed : before.root.WellComposed)
    (owns : before.root.kind ∈ Kind.ofOwners) :
    after.root.WellComposed ∧ after.root.kind = before.root.kind := by
  refine flows.root_induction
    (motive := fun root =>
      root.WellComposed ∧ root.kind = before.root.kind)
    ⟨composed, rfl⟩ ?_ ?_
  · intro ancestorPath descendantPath ancestor descendant meets
    obtain ⟨ancestorComposed, -⟩ := composed.descendant? owns meets.ancestor_found
    obtain ⟨descendantComposed, descendantOwns⟩ :=
      composed.descendant? owns meets.descendant_found
    obtain ⟨targetComposed, targetKind⟩ := wellComposed_received before edge
      ancestorComposed descendantComposed descendantOwns
    refine ⟨composed.replaceAt owns meets.descendant_found targetKind
      targetComposed, composed.replaceAt owns meets.descendant_found ?_
        (targetComposed.updateInfo rfl)⟩
    rw [Declaration.kind_sortMembers, targetKind]
  · rintro ancestorPath - - descendant - middle found ⟨middleComposed, sameKind⟩
      leads
    have middleOwns : middle.kind ∈ Kind.ofOwners := sameKind.symm ▸ owns
    obtain ⟨foundComposed, -⟩ := middleComposed.descendant? middleOwns leads
    have linkedKind : (linkBack edge.2 descendant.name found).kind = found.kind := by
      rw [linkBack, Declaration.kind, Declaration.info_updateInfo]
      rfl
    obtain ⟨replaced, replacedKind⟩ := middleComposed.replaceAt middleOwns leads
      linkedKind (foundComposed.updateInfo rfl)
    exact ⟨replaced, replacedKind.trans sameKind⟩

end Inheriting

namespace Hierarchy

/-- A well composed tree stays so along all edges. -/
theorem wellComposed_flowAlong
    {root : Declaration}
    (composed : root.WellComposed)
    (owns : root.kind ∈ Kind.ofOwners)
    (supply : IdSupply)
    (edges : List Edge) :
    (flowAlong root supply edges).root.WellComposed ∧
      (flowAlong root supply edges).root.kind = root.kind := by
  refine flowAlong_induction
    (motive := fun inheriting =>
      inheriting.root.WellComposed ∧ inheriting.root.kind = root.kind)
    ⟨composed, rfl⟩ ?_
  rintro before after edge - flows ⟨beforeComposed, sameKind⟩
  obtain ⟨afterComposed, afterKind⟩ :=
    flows.wellComposed beforeComposed (sameKind.symm ▸ owns)
  exact ⟨afterComposed, afterKind.trans sameKind⟩

end Hierarchy

end ApiTree.Decl
