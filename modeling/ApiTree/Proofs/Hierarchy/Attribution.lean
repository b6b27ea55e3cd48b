import ApiTree.Proofs.Decl.Likeness
import ApiTree.Proofs.Hierarchy.Agreement
import ApiTree.Proofs.Hierarchy.Apart

namespace ApiTree.Decl

/-!
# Attribution of inherited members

An inherited member is attributed to the class that declared it, however many classes
it came through and however often it was filled in.  Members of a class are
complete before any of them is passed on, so the member that an origin points at is
never changed again.
-/

/-- That nothing but the members of a declaration was inherited, and nothing in them. -/
structure InheritsMembersOnly (declared : Declaration) : Prop where
  own : declared.info.inheritedFrom = none
  below : ∀ member ∈ declared.children, ∀ info ∈ member.ownedInfos,
    info.inheritedFrom = none
  signatures : ∀ signature ∈ declared.signatures,
    signature.Everywhere fun info => info.inheritedFrom = none
  parameters : ∀ parameter ∈ declared.parameters,
    parameter.Everywhere fun info => info.inheritedFrom = none

/-- Where nothing is inherited no node has an inherited member. -/
theorem not_inherited_of_everywhere
    {declaration owner member : Declaration}
    (own : declaration.Everywhere fun info => info.inheritedFrom = none)
    (isNode : owner ∈ declaration.nodes)
    (isMember : member ∈ owner.children) :
    member.info.inheritedFrom = none :=
  own member.info (Declaration.ownedInfos_subset_infos _
    (Declaration.info_mem_ownedInfos_of_child isNode isMember))

/-- Where nothing but members was inherited only the node itself has such members. -/
theorem InheritsMembersOnly.eq_of_inherited
    {declared owner member : Declaration}
    (membersOnly : InheritsMembersOnly declared)
    (isNode : owner ∈ declared.nodes)
    (isMember : member ∈ owner.children)
    (inherited : member.info.inheritedFrom ≠ none) :
    owner = declared := by
  rw [Declaration.nodes_eq_cons_owned] at isNode
  simp only [Declaration.owned, List.mem_cons, List.mem_append,
    List.mem_flatMap] at isNode
  rcases isNode with isSelf | ⟨below, isBelow, isNode⟩ |
    ⟨signature, isSignature, isNode⟩ | ⟨parameter, isParameter, isNode⟩
  · exact isSelf
  · exact (inherited (membersOnly.below below isBelow member.info
      (Declaration.info_mem_ownedInfos_of_child isNode isMember))).elim
  · exact (inherited (not_inherited_of_everywhere
      (membersOnly.signatures signature isSignature) isNode isMember)).elim
  · exact (inherited (not_inherited_of_everywhere
      (membersOnly.parameters parameter isParameter) isNode isMember)).elim

/--
That a member of a class was inherited from one that an ancestor of the class
declared, and is like it.
-/
structure AttributedTo
    (edges : List Edge)
    (descendant : DeclId)
    (member : Declaration)
    (ancestor original : Declaration) :
    Prop where
  isMember : original ∈ ancestor.children
  above : Relation.TransGen (fun one other => (one, other) ∈ edges)
    ancestor.id descendant
  own : original.info.inheritedFrom = none
  origin_eq : member.info.inheritedFrom =
    some ⟨ancestor.name ++ "." ++ original.name, some original.id⟩
  likeness_eq : member.likeness = original.likeness

/--
That a member is the class's own, or attributed to a class which some edge leads out
of.
-/
def Credited
    (edges followed : List Edge)
    (classes : List Declaration)
    (descendant : DeclId)
    (member : Declaration) :
    Prop :=
  member.info.inheritedFrom = none ∨
    ∃ ancestor ∈ classes, ancestor.id ∈ followed.map (·.1) ∧
      ∃ original, AttributedTo edges descendant member ancestor original

namespace Injecting

variable
    {ancestorName : String}
    {before after : Injecting}
    {member : Declaration}

theorem likeness_stamp
    (origin : Link)
    (declaration : Declaration) :
    (stamp origin declaration).likeness = declaration.likeness := by
  cases declaration
  rw [stamp, Declaration.updateInfo, Declaration.likeness_node,
    Declaration.likeness_node]
  rfl

theorem likeness_renamedTo
    (own member : Declaration) :
    (renamedTo own member).likeness = member.likeness := by
  cases member
  rw [renamedTo, Declaration.updateInfo, Declaration.likeness_node,
    Declaration.likeness_node]
  rfl

/-- A copy is like the member. -/
theorem likeness_copyOf
    (ancestorName : String)
    (supply : IdSupply)
    (member : Declaration) :
    (copyOf ancestorName supply member).likeness = member.likeness :=
  (likeness_stamp _ _).trans (Declaration.likeness_renumber member supply)

/-- What fills in a member is like the member that it is a copy of. -/
theorem likeness_fillingOf
    (ancestorName : String)
    (supply : IdSupply)
    (own member : Declaration) :
    (fillingOf ancestorName supply own member).likeness = member.likeness :=
  ((likeness_stamp _ _).trans (Declaration.likeness_renumberOwned _ supply)).trans
    (likeness_renamedTo own member)

/-- What a member is when it was entered: of one origin and one likeness with another. -/
structure Derives
    (ancestorName : String)
    (member derived : Declaration) :
    Prop where
  origin_eq : derived.info.inheritedFrom = some (originOf ancestorName member)
  likeness_eq : derived.likeness = member.likeness
  below : (∀ info ∈ member.ownedInfos, info.inheritedFrom = none) →
    ∀ info ∈ derived.ownedInfos, info.inheritedFrom = none

theorem renumberable_own :
    Renumberable fun info => info.inheritedFrom = none :=
  fun _ _ _ own => own

/-- The declaration without a record of where it comes from. -/
def unstamped (declaration : Declaration) : Declaration :=
  declaration.updateInfo fun info => { info with inheritedFrom := none }

/-- Without such a record nothing is inherited in what owns nothing inherited. -/
theorem everywhere_unstamped
    {declaration : Declaration}
    (own : ∀ info ∈ declaration.ownedInfos, info.inheritedFrom = none) :
    (unstamped declaration).Everywhere fun info => info.inheritedFrom = none := by
  intro info isInfo
  rw [Declaration.infos_eq_cons_ownedInfos, unstamped,
    Declaration.ownedInfos_updateInfo, Declaration.info_updateInfo] at isInfo
  rcases List.mem_cons.mp isInfo with rfl | isOwned
  · rfl
  · exact own info isOwned

theorem derives_copyOf
    (ancestorName : String)
    (supply : IdSupply)
    (member : Declaration) :
    Derives ancestorName member (copyOf ancestorName supply member) := by
  refine ⟨inheritedFrom_stamp _ _, likeness_copyOf _ _ _, ?_⟩
  intro own info isOwned
  have renumbered :=
    (everywhere_unstamped own).renumber renumberable_own supply
  refine renumbered info (Declaration.ownedInfos_subset_infos _ ?_)
  cases member
  exact isOwned

theorem derives_fillingOf
    (ancestorName : String)
    (supply : IdSupply)
    (own member : Declaration) :
    Derives ancestorName member (fillingOf ancestorName supply own member) := by
  refine ⟨inheritedFrom_stamp _ _, likeness_fillingOf _ _ _ _, ?_⟩
  intro ownBelow info isOwned
  have renamedBelow :
      ∀ info ∈ (renamedTo own member).ownedInfos, info.inheritedFrom = none := by
    rwa [renamedTo, Declaration.ownedInfos_updateInfo]
  have renumbered :=
    (everywhere_unstamped renamedBelow).renumberOwned renumberable_own supply
  refine renumbered info (Declaration.ownedInfos_subset_infos _ ?_)
  cases member
  exact isOwned

/-- A member of a class was there before, or is derived from the one that was entered. -/
theorem Enters.derives
    (enters : Enters ancestorName before member after) :
    ∀ one ∈ after.target.children,
      one ∈ before.target.children ∨ Derives ancestorName member one := by
  cases enters with
  | halted _ same => exact same ▸ fun one isMember => .inl isMember
  | stands _ _ _ _ _ _ same => exact same ▸ fun one isMember => .inl isMember
  | refused _ _ _ same => exact same ▸ fun one isMember => .inl isMember
  | appends _ _ _ _ _ children_eq =>
      intro one isMember
      rw [children_eq] at isMember
      rcases List.mem_append.mp isMember with wasMember | isCopy
      · exact .inl wasMember
      · exact .inr (List.mem_singleton.mp isCopy ▸ derives_copyOf _ _ _)
  | fills _ own _ _ _ _ _ children_eq =>
      intro one isMember
      rw [children_eq] at isMember
      rcases List.mem_or_eq_of_mem_set isMember with wasMember | rfl
      · exact .inl wasMember
      · exact .inr (derives_fillingOf _ _ own _)

end Injecting

namespace Inheriting

/-- What a class has received was its own or derives from a member of the ancestor. -/
theorem derives_received
    (before : Inheriting)
    (edge : Edge)
    (ancestor descendant : Declaration) :
    ∀ one ∈ (received before edge ancestor descendant).target.children,
      one ∈ descendant.children ∨
        ∃ member ∈ ancestor.children,
          Injecting.Derives ancestor.name member one := by
  refine Injecting.foldl_inject_induction
    (motive := fun injecting => ∀ one ∈ injecting.target.children,
      one ∈ descendant.children ∨
        ∃ member ∈ ancestor.children,
          Injecting.Derives ancestor.name member one) ?_ ?_
  · rw [children_opening]
    exact fun one isMember => .inl isMember
  · intro between after member isMember enters derived one isOne
    rcases enters.derives one isOne with wasOne | derives
    · exact derived one wasOne
    · exact .inr ⟨member, isMember, derives⟩

/-- A class that received members inherited nothing but members. -/
theorem inheritsMembersOnly_received
    (before : Inheriting)
    (edge : Edge)
    {ancestor descendant : Declaration}
    (ancestorOwn : InheritsMembersOnly ancestor)
    (descendantOwn : InheritsMembersOnly descendant) :
    InheritsMembersOnly
      (received before edge ancestor descendant).target.sortMembers := by
  have regrouped := (regrouped_received before edge ancestor descendant).trans
    (.of_sortMembers _)
  obtain ⟨groups, infoEq⟩ := regrouped.info_eq
  have signaturesEq := regrouped.signatures_eq
  have parametersEq := regrouped.parameters_eq
  refine ⟨?_, ?_, ?_, ?_⟩
  · rw [infoEq, linkTo, Declaration.info_updateInfo]
    exact descendantOwn.own
  · rw [Declaration.children_sortMembers]
    intro member isMember
    rcases derives_received before edge ancestor descendant member isMember with
      wasMember | ⟨original, isOriginal, derives⟩
    · exact descendantOwn.below member wasMember
    · exact derives.below (ancestorOwn.below original isOriginal)
  · rw [signaturesEq, linkTo]
    cases descendant
    exact descendantOwn.signatures
  · rw [parametersEq, linkTo]
    cases descendant
    exact descendantOwn.parameters

/-- A link back to a descendant is nothing inherited. -/
theorem inheritsMembersOnly_linkBack
    {ancestor : Declaration}
    (descendant : DeclId)
    (name : String)
    (own : InheritsMembersOnly ancestor) :
    InheritsMembersOnly (linkBack descendant name ancestor) := by
  cases ancestor
  exact ⟨own.own, own.below, own.signatures, own.parameters⟩

end Inheriting

/-! ## Members that stay attributed -/

/-- A class is attributed to again when it is attributed to and stays what it is. -/
theorem AttributedTo.of_same
    {edges : List Edge}
    {descendant : DeclId}
    {member ancestor original other : Declaration}
    (attributed : AttributedTo edges descendant member ancestor original)
    (id_eq : other.id = ancestor.id)
    (name_eq : other.name = ancestor.name)
    (children_eq : other.children = ancestor.children) :
    AttributedTo edges descendant member other original :=
  { attributed with
    isMember := children_eq ▸ attributed.isMember
    above := id_eq ▸ attributed.above
    origin_eq := name_eq ▸ attributed.origin_eq }

/-- A member that derives from a credited one is attributed to a class. -/
theorem Credited.attributed
    {edges followed : List Edge}
    {classes : List Declaration}
    {edge : Edge}
    {ancestor member derived : Declaration}
    (credited : Credited edges followed classes edge.1 member)
    (isClass : ancestor ∈ classes)
    (isAncestor : ancestor.id = edge.1)
    (isMember : member ∈ ancestor.children)
    (isEdge : edge ∈ edges)
    (derives : Injecting.Derives ancestor.name member derived) :
    ∃ first ∈ classes, first.id ∈ (followed ++ [edge]).map (·.1) ∧
      ∃ original, AttributedTo edges edge.2 derived first original := by
  rcases credited with own | ⟨first, isFirst, isFollowed, original, attributed⟩
  · refine ⟨ancestor, isClass, by simp [isAncestor], member, isMember, ?_, own, ?_,
      derives.likeness_eq⟩
    · exact .single (isAncestor ▸ isEdge)
    · rw [derives.origin_eq, Injecting.originOf, own]
  · refine ⟨first, isFirst, ?_, original, attributed.isMember, ?_, attributed.own,
      ?_, derives.likeness_eq.trans attributed.likeness_eq⟩
    · rw [List.map_append]
      exact List.mem_append_left _ isFollowed
    · exact attributed.above.tail isEdge
    · rw [derives.origin_eq, Injecting.originOf, attributed.origin_eq]

namespace Hierarchy

open Inheriting

variable
    {hierarchy : Hierarchy}
    {root : Declaration}
    {supply : IdSupply}
    {earlier : List Edge}
    {edge : Edge}

/-- A tree whose classes are members of the root, and in which nothing is inherited. -/
structure Uninherited
    (hierarchy : Hierarchy)
    (root : Declaration) :
    Prop where
  /-- Every class that extends or is extended is a member of the root. -/
  top : ∀ number ∈ endpoints hierarchy.resolvedEdges,
    ∃ declared ∈ root.children, declared.id = number
  distinct : root.ids.Nodup
  own : root.Everywhere fun info => info.inheritedFrom = none
  acyclic : Acyclic hierarchy.resolvedEdges

/-- What a run has made of the members of classes after some edges. -/
structure CreditedAfter
    (edges : List Edge)
    (root : Declaration)
    (earlier : List Edge)
    (now : Declaration) :
    Prop where
  ids_eq : now.children.map Declaration.id = root.children.map Declaration.id
  each : ∀ one ∈ now.children, InheritsMembersOnly one
  members : ∀ one ∈ now.children, ∀ member ∈ one.children,
    Credited edges earlier now.children one.id member

/-- At first all members are the classes' own. -/
theorem Uninherited.creditedAfter_nil
    (uninherited : Uninherited hierarchy root) :
    CreditedAfter hierarchy.resolvedEdges root [] root := by
  obtain ⟨-, inChildren, -, -⟩ := Declaration.everywhere_iff.mp uninherited.own
  refine ⟨rfl, ?_, ?_⟩
  · intro one isClass
    obtain ⟨own, members, signatures, parameters⟩ :=
      Declaration.everywhere_iff.mp (inChildren one isClass)
    refine ⟨own, ?_, signatures, parameters⟩
    intro member isMember info isOwned
    exact members member isMember info
      (Declaration.ownedInfos_subset_infos _ isOwned)
  · intro one isClass member isMember
    exact .inl (inChildren one isClass member.info
      (Declaration.info_mem_infos_of_child isMember))

/-- Where the class of a number stands in the tree that a run has made. -/
structure StandsAt
    (root now : Declaration)
    (number : DeclId)
    (position : Nat)
    (current : Declaration) :
    Prop where
  looked : root.childPaths.lookup number = some [position]
  found : now.children[position]? = some current
  id_eq : current.id = number

theorem CreditedAfter.exists_standsAt
    {now : Declaration}
    (creditedAfter : CreditedAfter hierarchy.resolvedEdges root earlier now)
    (uninherited : Uninherited hierarchy root)
    {number : DeclId}
    (isEnd : number ∈ endpoints hierarchy.resolvedEdges) :
    ∃ position current, StandsAt root now number position current := by
  obtain ⟨declared, isMember, rfl⟩ := uninherited.top number isEnd
  obtain ⟨position, declaredFound⟩ := List.getElem?_of_mem isMember
  have leads : root.descendant? [position] = some declared := by
    rwa [Declaration.descendant?_singleton]
  have sameId : (now.children.map Declaration.id)[position]? =
      some declared.id := by
    rw [creditedAfter.ids_eq, List.getElem?_map, declaredFound, Option.map_some]
  rw [List.getElem?_map] at sameId
  obtain ⟨current, found, isNumber⟩ := Option.map_eq_some_iff.mp sameId
  exact ⟨position, current,
    Declaration.lookup_childPaths uninherited.distinct leads, found, isNumber⟩

/-- What became of the classes when members flowed along an edge. -/
structure FlowedBetween
    (before : Inheriting)
    (edge : Edge)
    (ancestor descendant now : Declaration) :
    Prop where
  ids_eq : now.children.map Declaration.id =
    before.root.children.map Declaration.id
  /-- Each class is the descendant, the ancestor or one that the edge leaves alone. -/
  cases_of_mem : ∀ one ∈ now.children,
    one = (received before edge ancestor descendant).target.sortMembers ∨
      one = linkBack edge.2 descendant.name ancestor ∨
      one ∈ before.root.children
  /-- Every class but the descendant keeps its name and its members. -/
  kept : ∀ one ∈ before.root.children, one.id ≠ edge.2 →
    ∃ same ∈ now.children, same.id = one.id ∧ same.name = one.name ∧
      same.children = one.children

/-- Members flow between the two classes at the ends of an edge. -/
theorem flowedBetween_of_standsAt
    {before : Inheriting}
    {ancestor descendant : Declaration}
    {ancestorPosition descendantPosition : Nat}
    (different : edge.1 ≠ edge.2)
    (ancestorStands :
      StandsAt root before.root edge.1 ancestorPosition ancestor)
    (descendantStands :
      StandsAt root before.root edge.2 descendantPosition descendant) :
    FlowedBetween before edge ancestor descendant
      ((before.root.replaceAt
          (received before edge ancestor descendant).target.sortMembers
          [descendantPosition]).updateAt [ancestorPosition]
        (linkBack edge.2 descendant.name)) := by
  have apart : ancestorPosition ≠ descendantPosition := by
    rintro rfl
    obtain rfl : ancestor = descendant :=
      Option.some.inj (ancestorStands.found.symm.trans descendantStands.found)
    exact different (ancestorStands.id_eq.symm.trans descendantStands.id_eq)
  obtain ⟨descendantNow, ancestorNow, othersNow⟩ :=
    children_replaced_and_linked apart ancestorStands.found
      descendantStands.found
      (received before edge ancestor descendant).target.sortMembers
      (linkBack edge.2 descendant.name)
  have receivedId :
      (received before edge ancestor descendant).target.sortMembers.id =
        descendant.id := by
    rw [(Regrouped.of_sortMembers _).id_eq, id_received]
  have linkedId (name : String) :
      (linkBack edge.2 name ancestor).id = ancestor.id :=
    Declaration.id_updateInfo _ _
  generalize Declaration.updateAt _ [ancestorPosition] _ = now at *
  refine ⟨?_, ?_, ?_⟩
  · refine List.ext_getElem? ?_
    intro position
    rw [List.getElem?_map, List.getElem?_map]
    by_cases isDescendant : position = descendantPosition
    · rw [isDescendant, descendantNow, descendantStands.found, Option.map_some,
        receivedId, Option.map_some]
    · by_cases isAncestor : position = ancestorPosition
      · rw [isAncestor, ancestorNow, ancestorStands.found, Option.map_some,
          linkedId, Option.map_some]
      · rw [othersNow position isAncestor isDescendant]
  · intro one isClass
    obtain ⟨position, found⟩ := List.getElem?_of_mem isClass
    by_cases isDescendant : position = descendantPosition
    · exact .inl (Option.some.inj
        (found.symm.trans (isDescendant ▸ descendantNow)))
    · by_cases isAncestor : position = ancestorPosition
      · exact .inr (.inl (Option.some.inj
          (found.symm.trans (isAncestor ▸ ancestorNow))))
      · rw [othersNow position isAncestor isDescendant] at found
        exact .inr (.inr (List.mem_of_getElem? found))
  · intro one isClass notDescendant
    obtain ⟨position, found⟩ := List.getElem?_of_mem isClass
    have otherPosition : position ≠ descendantPosition := by
      rintro rfl
      obtain rfl : one = descendant :=
        Option.some.inj (found.symm.trans descendantStands.found)
      exact notDescendant descendantStands.id_eq
    by_cases isAncestor : position = ancestorPosition
    · subst isAncestor
      obtain rfl : one = ancestor :=
        Option.some.inj (found.symm.trans ancestorStands.found)
      refine ⟨_, List.mem_of_getElem? ancestorNow, linkedId _, ?_, ?_⟩
      · exact Declaration.name_updateInfo _ _
      · exact Declaration.children_updateInfo _ _
    · refine ⟨one, ?_, rfl, rfl, rfl⟩
      rw [← othersNow position isAncestor otherPosition] at found
      exact List.mem_of_getElem? found

/--
An edge keeps what members are credited with, if it does not lead into a class that
an earlier one led out of.
-/
theorem CreditedAfter.flowed
    {edges : List Edge}
    {before : Inheriting}
    {ancestor descendant now : Declaration}
    (creditedAfter : CreditedAfter edges root earlier before.root)
    (isEdge : edge ∈ edges)
    (steady : ∀ one ∈ earlier, edge.2 ≠ one.1)
    (different : edge.1 ≠ edge.2)
    (isAncestor : ancestor ∈ before.root.children)
    (ancestorId : ancestor.id = edge.1)
    (isDescendant : descendant ∈ before.root.children)
    (descendantId : descendant.id = edge.2)
    (flowed : FlowedBetween before edge ancestor descendant now) :
    CreditedAfter edges root (earlier ++ [edge]) now := by
  -- A class that members are attributed to has passed some on, and is complete.
  have still {number : DeclId} {member first original : Declaration}
      (isFirst : first ∈ before.root.children)
      (isFollowed : first.id ∈ (earlier ++ [edge]).map (·.1))
      (attributed : AttributedTo edges number member first original) :
      Credited edges (earlier ++ [edge]) now.children number member := by
    have complete : first.id ≠ edge.2 := by
      obtain ⟨one, isOne, sameId⟩ := List.mem_map.mp isFollowed
      rw [← sameId]
      rcases List.mem_append.mp isOne with isEarlier | isLast
      · exact (steady one isEarlier).symm
      · exact List.mem_singleton.mp isLast ▸ different
    obtain ⟨same, isSame, idEq, nameEq, childrenEq⟩ :=
      flowed.kept first isFirst complete
    exact .inr ⟨same, isSame, idEq ▸ isFollowed, original,
      attributed.of_same idEq nameEq childrenEq⟩
  have keeps {number : DeclId} {member : Declaration}
      (credited : Credited edges earlier before.root.children number member) :
      Credited edges (earlier ++ [edge]) now.children number member := by
    rcases credited with own | ⟨first, isFirst, isFollowed, original, attributed⟩
    · exact .inl own
    · refine still isFirst ?_ attributed
      rw [List.map_append]
      exact List.mem_append_left _ isFollowed
  have ancestorOwn := creditedAfter.each ancestor isAncestor
  have descendantOwn := creditedAfter.each descendant isDescendant
  refine ⟨flowed.ids_eq.trans creditedAfter.ids_eq, ?_, ?_⟩
  · intro one isClass
    rcases flowed.cases_of_mem one isClass with rfl | rfl | wasClass
    · exact inheritsMembersOnly_received before edge ancestorOwn descendantOwn
    · exact inheritsMembersOnly_linkBack _ _ ancestorOwn
    · exact creditedAfter.each one wasClass
  · intro one isClass member isMember
    rcases flowed.cases_of_mem one isClass with rfl | rfl | wasClass
    · rw [(Regrouped.of_sortMembers _).id_eq, id_received, descendantId]
      rw [Declaration.children_sortMembers] at isMember
      rcases derives_received before edge ancestor descendant member isMember
        with wasMember | ⟨source, isSource, derives⟩
      · exact descendantId ▸
          keeps (creditedAfter.members descendant isDescendant member wasMember)
      · have sourceCredited :=
          creditedAfter.members ancestor isAncestor source isSource
        rw [ancestorId] at sourceCredited
        obtain ⟨first, isFirst, isFollowed, original, attributed⟩ :=
          sourceCredited.attributed isAncestor ancestorId isSource isEdge derives
        exact still isFirst isFollowed attributed
    · rw [linkBack, Declaration.children_updateInfo] at isMember
      rw [linkBack, Declaration.id_updateInfo]
      exact keeps (creditedAfter.members ancestor isAncestor member isMember)
    · exact keeps (creditedAfter.members one wasClass member isMember)

/-- After any first edges of the schedule every member is credited. -/
theorem Uninherited.creditedAfter_flowAlong
    (uninherited : Uninherited hierarchy root)
    {later : List Edge}
    (scheduled : schedule hierarchy.resolvedEdges = earlier ++ later)
    (runs : (flowAlong root supply earlier).failure = none) :
    CreditedAfter hierarchy.resolvedEdges root earlier
      (flowAlong root supply earlier).root := by
  induction earlier using List.reverseRecOn generalizing later with
  | nil =>
      exact uninherited.creditedAfter_nil
  | append_singleton earlier edge inductionHypothesis =>
      rw [List.append_assoc, List.singleton_append] at scheduled
      have creditedAfter := inductionHypothesis scheduled
        ( failure_flowAlong_of_prefix (List.prefix_append earlier [edge]) runs)
      have isEdge : edge ∈ hierarchy.resolvedEdges := by
        refine schedule_subset _ ?_
        rw [scheduled]
        exact List.mem_append_right _ List.mem_cons_self
      have ordered := pairwise_schedule uninherited.acyclic
      rw [scheduled] at ordered
      obtain ⟨-, -, notBack⟩ := List.pairwise_append.mp ordered
      have different := uninherited.acyclic.ne isEdge
      obtain ⟨ancestorPosition, ancestor, ancestorStands⟩ :=
        creditedAfter.exists_standsAt uninherited
          (mem_endpoints_iff.mpr ⟨edge, isEdge, .inl rfl⟩)
      obtain ⟨descendantPosition, descendant, descendantStands⟩ :=
        creditedAfter.exists_standsAt uninherited
          (mem_endpoints_iff.mpr ⟨edge, isEdge, .inr rfl⟩)
      have meets : Meets root.childPaths (flowAlong root supply earlier).root edge
          [ancestorPosition] [descendantPosition] ancestor descendant :=
        { ancestor_path := ancestorStands.looked
          descendant_path := descendantStands.looked
          ancestor_found :=
            (Declaration.descendant?_singleton _ _).trans ancestorStands.found
          descendant_found :=
            (Declaration.descendant?_singleton _ _).trans
              descendantStands.found }
      have flowed := flowedBetween_of_standsAt different ancestorStands
        descendantStands
      rw [flowAlong_concat] at runs ⊢
      cases flows_propagate root.childPaths (flowAlong root supply earlier) edge
        with
      | halted failed same => exact (failed (same ▸ runs)).elim
      | skipped _ apart => exact (apart _ _ _ _ meets).elim
      | fails _ _ _ _ _ _ _ _ _ _ failure_eq =>
          rw [failure_eq] at runs
          cases runs
      | flows _ _ _ _ _ other _ root_eq =>
          obtain ⟨rfl, rfl, rfl, rfl⟩ := meets.unique other
          rw [root_eq]
          exact creditedAfter.flowed isEdge
            (fun one isEarlier => notBack one isEarlier edge List.mem_cons_self)
            different (List.mem_of_getElem? ancestorStands.found)
            ancestorStands.id_eq (List.mem_of_getElem? descendantStands.found)
            descendantStands.id_eq flowed

/-! ## The whole run -/

/-- The root of the tree keeps everything but its members. -/
theorem Uninherited.top_flowAlong
    (uninherited : Uninherited hierarchy root)
    {edges : List Edge}
    (included : edges ⊆ hierarchy.resolvedEdges)
    (supply : IdSupply) :
    (flowAlong root supply edges).root.top = root.top := by
  have outside : ∀ ends, EndsAt root hierarchy.resolvedEdges ends →
      ¬ ends <+: [] := by
    rintro ends ⟨edge, isEdge, looked⟩ isFront
    obtain rfl := List.prefix_nil.mp isFront
    have atRoot : ∀ number ∈ endpoints hierarchy.resolvedEdges,
        root.childPaths.lookup number ≠ some [] := by
      intro number isEnd looked
      obtain ⟨declared, isMember, rfl⟩ := uninherited.top number isEnd
      obtain ⟨position, found⟩ := List.getElem?_of_mem isMember
      have leads : root.descendant? [position] = some declared := by
        rwa [Declaration.descendant?_singleton]
      rw [Declaration.lookup_childPaths uninherited.distinct leads] at looked
      cases looked
    rcases looked with ancestorLooked | descendantLooked
    · exact atRoot _ (mem_endpoints_iff.mpr ⟨edge, isEdge, .inl rfl⟩)
        ancestorLooked
    · exact atRoot _ (mem_endpoints_iff.mpr ⟨edge, isEdge, .inr rfl⟩)
        descendantLooked
  exact Option.some.inj (map_top_flowAlong included outside supply)

/--
When a hierarchy of members of the root without cycles is resolved, every inherited
member is one of such a class, and is attributed to an ancestor of the class that is
not the class itself: its origin points at a member that the ancestor declared, names
both, and the two are the same but for their numbers.
-/
theorem inherited_members_are_attributed_to_originals
    (uninherited : Uninherited hierarchy root)
    (runs : (hierarchy.resolve root supply).failure = none) :
    let resolved := (hierarchy.resolve root supply).root
    ∀ descendant ∈ resolved.nodes, ∀ member ∈ descendant.children,
      member.info.inheritedFrom ≠ none →
        descendant ∈ resolved.children ∧
          ∃ ancestor ∈ resolved.children, ∃ original,
            ancestor.id ≠ descendant.id ∧
              member.name = original.name ∧
              AttributedTo hierarchy.resolvedEdges descendant.id member
                ancestor original := by
  intro resolved descendant isNode member isMember inherited
  have creditedAfter : CreditedAfter hierarchy.resolvedEdges root
      (schedule hierarchy.resolvedEdges) resolved :=
    uninherited.creditedAfter_flowAlong (List.append_nil _).symm runs
  have topEq : resolved.top = root.top :=
    uninherited.top_flowAlong (schedule_subset _) supply
  obtain ⟨infoEq, signaturesEq, parametersEq⟩ :
      resolved.info = root.info ∧ resolved.signatures = root.signatures ∧
        resolved.parameters = root.parameters := by
    simpa [Declaration.top] using topEq
  obtain ⟨own, -, signatures, parameters⟩ :=
    Declaration.everywhere_iff.mp uninherited.own
  have isClass : descendant ∈ resolved.children := by
    rw [Declaration.nodes_eq_cons_owned] at isNode
    simp only [Declaration.owned, List.mem_cons, List.mem_append,
      List.mem_flatMap] at isNode
    rcases isNode with rfl | ⟨one, isOne, isNode⟩ |
      ⟨signature, isSignature, isNode⟩ | ⟨parameter, isParameter, isNode⟩
    · exact (inherited (creditedAfter.each member isMember).own).elim
    · exact (creditedAfter.each one isOne).eq_of_inherited isNode isMember
        inherited ▸ isOne
    · exact (inherited (not_inherited_of_everywhere
        (signatures signature (signaturesEq ▸ isSignature)) isNode
        isMember)).elim
    · exact (inherited (not_inherited_of_everywhere
        (parameters parameter (parametersEq ▸ isParameter)) isNode
        isMember)).elim
  refine ⟨isClass, ?_⟩
  rcases creditedAfter.members descendant isClass member isMember with
    own | ⟨ancestor, isAncestor, -, original, attributed⟩
  · exact (inherited own).elim
  · refine ⟨ancestor, isAncestor, original, ?_, ?_, attributed⟩
    · intro sameId
      exact uninherited.acyclic _ (sameId ▸ attributed.above)
    · exact Declaration.name_eq_of_likeness_eq attributed.likeness_eq

/-- The method of the base reaches the class at the bottom of the diamond. -/
theorem inherited_members_are_attributed_to_originals_of_diamond :
    Uninherited diamond diamondClasses ∧
      (diamond.resolve diamondClasses ⟨7⟩).failure = none ∧
      ∃ bottom ∈ (diamond.resolve diamondClasses ⟨7⟩).root.nodes,
        ∃ member ∈ bottom.children,
          bottom.name = "Bottom" ∧
            member.info.inheritedFrom = some ⟨"Base.run", some 2⟩ ∧
            ∃ ancestor ∈ (diamond.resolve diamondClasses ⟨7⟩).root.children,
              ∃ original,
                AttributedTo diamond.resolvedEdges bottom.id member
                  ancestor original := by
  have uninherited : Uninherited diamond diamondClasses :=
    ⟨by decide, by decide, by rw [Declaration.Everywhere]; decide,
      acyclic_of_lt (by decide)⟩
  have runs : (diamond.resolve diamondClasses ⟨7⟩).failure = none := by decide +kernel
  have exists_member : ∃ bottom ∈ (diamond.resolve diamondClasses ⟨7⟩).root.nodes,
      ∃ member ∈ bottom.children, bottom.name = "Bottom" ∧
        member.info.inheritedFrom = some ⟨"Base.run", some 2⟩ := by
    decide +kernel
  obtain ⟨bottom, isNode, member, isMember, isBottom, origin⟩ := exists_member
  have attributed := inherited_members_are_attributed_to_originals uninherited runs
    bottom isNode member isMember (by rw [origin]; exact Option.some_ne_none _)
  obtain ⟨-, ancestor, isAncestor, original, -, -, attributedTo⟩ := attributed
  exact ⟨uninherited, runs, bottom, isNode, member, isMember, isBottom, origin,
    ancestor, isAncestor, original, attributedTo⟩

end Hierarchy

end ApiTree.Decl
