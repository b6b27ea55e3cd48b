import ApiTree.Proofs.Hierarchy.Delivery
import ApiTree.Proofs.Hierarchy.Matching

namespace ApiTree.Decl

/-!
# Members that flow as they should

In a tree whose classes are members of the root, and without cycles, resolving a
hierarchy gives every class the members that the reference has for it, up to the
numbers of copies.  After each edge a class has the members that the edges so far
should have given it, and when an edge is followed its ancestor has received all
of its own.
-/

namespace Injecting

variable
    {ancestorName : String}
    {before after : Injecting}
    {member : Declaration}

/-- The information of a copy is that of the member but for numbers and origin. -/
theorem info_copyOf
    (ancestorName : String)
    (supply : IdSupply)
    (member : Declaration) :
    ∃ id groups, (copyOf ancestorName supply member).info =
      { member.info with
        id := id
        groups := groups
        inheritedFrom := some (originOf ancestorName member) } := by
  cases member
  exact ⟨_, _, rfl⟩

theorem info_fillingOf
    (ancestorName : String)
    (supply : IdSupply)
    (own member : Declaration) :
    ∃ id groups, (fillingOf ancestorName supply own member).info =
      { member.info with
        id := id
        groups := groups
        inheritedFrom := some (originOf ancestorName member) } := by
  cases member
  exact ⟨_, _, rfl⟩

/-- The group of a declaration depends on neither numbers nor origin. -/
theorem classify_of_info_eq
    {declaration : Declaration}
    {origin : Link}
    (infoEq : ∃ id groups, declaration.info =
      { member.info with
        id := id
        groups := groups
        inheritedFrom := some origin }) :
    declaration.info.classify = member.info.classify := by
  obtain ⟨id, groups, infoEq⟩ := infoEq
  rw [infoEq]
  rfl

/-- Members that belong to groups stay members that belong to groups. -/
theorem Enters.grouped
    (enters : Enters ancestorName before member after)
    (memberGrouped : member.info.classify ≠ none)
    (grouped : ∀ one ∈ before.target.children, one.info.classify ≠ none) :
    ∀ one ∈ after.target.children, one.info.classify ≠ none := by
  cases enters with
  | halted _ same => exact same ▸ grouped
  | stands _ _ _ _ _ _ same => exact same ▸ grouped
  | refused _ _ _ same => exact same ▸ grouped
  | appends _ _ _ _ _ children_eq =>
      intro one isMember
      rw [children_eq] at isMember
      rcases List.mem_append.mp isMember with wasMember | isCopy
      · exact grouped one wasMember
      · obtain rfl := List.mem_singleton.mp isCopy
        rw [classify_of_info_eq (info_copyOf _ _ member)]
        exact memberGrouped
  | fills _ _ _ _ _ _ _ children_eq =>
      intro one isMember
      rw [children_eq] at isMember
      rcases List.mem_or_eq_of_mem_set isMember with wasMember | rfl
      · exact grouped one wasMember
      · rw [classify_of_info_eq (info_fillingOf _ _ _ member)]
        exact memberGrouped

/-- Members keep their numbers, and others are added behind them. -/
theorem Enters.ids_prefix
    (enters : Enters ancestorName before member after) :
    before.target.children.map Declaration.id <+:
      after.target.children.map Declaration.id := by
  cases enters with
  | halted _ same => exact same ▸ List.prefix_refl _
  | stands _ _ _ _ _ _ same => exact same ▸ List.prefix_refl _
  | refused _ _ _ same => exact same ▸ List.prefix_refl _
  | appends _ _ _ _ _ children_eq =>
      rw [children_eq, List.map_append]
      exact List.prefix_append _ _
  | fills position own _ _ found _ _ children_eq =>
      obtain ⟨front, back, shape, -, setShape⟩ :=
        Declaration.exists_around found
      rw [children_eq, setShape, shape]
      simp

end Injecting

namespace Hierarchy

open Inheriting

variable
    {hierarchy : Hierarchy}
    {root : Declaration}
    {supply : IdSupply}

/-- A tree with a hierarchy of members of its root, in which members can flow. -/
structure Flat
    (hierarchy : Hierarchy)
    (root : Declaration)
    (supply : IdSupply) :
    Prop where
  numbered : NumberedFrom supply root
  /-- Every class that extends or is extended is a member of the root. -/
  top : ∀ number ∈ endpoints hierarchy.resolvedEdges,
    ∃ declared ∈ root.children, declared.id = number
  /-- Every member of such a class belongs to a group. -/
  grouped : ∀ declared ∈ root.children,
    declared.id ∈ endpoints hierarchy.resolvedEdges →
      ∀ member ∈ declared.children, member.info.classify ≠ none
  acyclic : Acyclic hierarchy.resolvedEdges

/-- The link to a base. -/
def linkOf
    (root : Declaration)
    (base : DeclId) :
    Link :=
  ⟨className root base, some base⟩

/-- What a class has become after some edges. -/
structure ClassAfter
    (hierarchy : Hierarchy)
    (root : Declaration)
    (supply : IdSupply)
    (earlier : List Edge)
    (declared now : Declaration) :
    Prop where
  id_eq : now.id = declared.id
  name_eq : now.name = declared.name
  extendedTypes_eq : now.info.extendedTypes =
    declared.info.extendedTypes ++
      (basesOf earlier declared.id).map (linkOf root)
  ids_prefix : declared.children.map Declaration.id <+:
    now.children.map Declaration.id
  members : List.Forall₂ (Matches supply.next)
    ((basesOf earlier declared.id).foldl
      (enterBase root (referenceMembers root hierarchy.resolvedEdges))
      declared.children)
    now.children
  grouped : declared.id ∈ endpoints hierarchy.resolvedEdges →
    ∀ member ∈ now.children, member.info.classify ≠ none

/-- What a run has made of the classes after some edges. -/
structure RunAfter
    (hierarchy : Hierarchy)
    (root : Declaration)
    (supply : IdSupply)
    (earlier : List Edge)
    (now : Inheriting) :
    Prop where
  running : now.failure = none
  classes : ∀ (position : Nat) (declared : Declaration),
    root.children[position]? = some declared →
      ∃ current, now.root.children[position]? = some current ∧
        ClassAfter hierarchy root supply earlier declared current

/-- At first every class is as it was declared. -/
theorem runAfter_nil
    (flat : Flat hierarchy root supply) :
    RunAfter hierarchy root supply [] { root := root, supply := supply } := by
  refine ⟨rfl, ?_⟩
  intro position declared found
  refine ⟨declared, found, ?_⟩
  exact
    { id_eq := rfl
      name_eq := rfl
      extendedTypes_eq := by simp [basesOf]
      ids_prefix := List.prefix_refl _
      members := List.forall₂_same.mpr fun member _ => .refl member
      grouped := flat.grouped declared (List.mem_of_getElem? found) }

/-! ## Classes and their positions -/

/-- Two members of the root with one number stand in one place. -/
theorem Flat.position_eq
    (flat : Flat hierarchy root supply)
    {firstPosition secondPosition : Nat}
    {first second : Declaration}
    (firstFound : root.children[firstPosition]? = some first)
    (secondFound : root.children[secondPosition]? = some second)
    (sameId : first.id = second.id) :
    firstPosition = secondPosition := by
  have firstLeads : root.descendant? [firstPosition] = some first := by
    rwa [Declaration.descendant?_singleton]
  have secondLeads : root.descendant? [secondPosition] = some second := by
    rwa [Declaration.descendant?_singleton]
  have samePath :=
    Declaration.path_eq_of_id_eq flat.numbered.distinct firstLeads secondLeads
      sameId
  exact (List.cons.inj samePath).1

/-- The class of a number is the member of the root that has it. -/
theorem Flat.class?At_eq
    (flat : Flat hierarchy root supply)
    {position : Nat}
    {declared : Declaration}
    (found : root.children[position]? = some declared) :
    class?At root declared.id = some declared := by
  cases looked : class?At root declared.id with
  | none =>
      have absent := List.find?_eq_none.mp looked declared
        (List.mem_of_getElem? found)
      simp at absent
  | some other =>
      have sameId : other.id = declared.id := by
        simpa using List.find?_some looked
      obtain ⟨otherPosition, otherFound⟩ :=
        List.getElem?_of_mem (List.mem_of_find?_eq_some looked)
      obtain rfl := flat.position_eq otherFound found sameId
      exact otherFound.symm.trans found

/-- Every end of an edge is the number of a member of the root. -/
theorem Flat.exists_position
    (flat : Flat hierarchy root supply)
    {number : DeclId}
    (isEnd : number ∈ endpoints hierarchy.resolvedEdges) :
    ∃ position declared, root.children[position]? = some declared ∧
      declared.id = number ∧
      root.childPaths.lookup number = some [position] := by
  obtain ⟨declared, isMember, isNumber⟩ := flat.top number isEnd
  obtain ⟨position, found⟩ := List.getElem?_of_mem isMember
  refine ⟨position, declared, found, isNumber, ?_⟩
  have leads : root.descendant? [position] = some declared := by
    rwa [Declaration.descendant?_singleton]
  rw [← isNumber]
  exact Declaration.lookup_childPaths flat.numbered.distinct leads

theorem Flat.ownMembers_eq
    (flat : Flat hierarchy root supply)
    {position : Nat}
    {declared : Declaration}
    (found : root.children[position]? = some declared) :
    ownMembers root declared.id = declared.children := by
  rw [ownMembers, flat.class?At_eq found]

theorem Flat.className_eq
    (flat : Flat hierarchy root supply)
    {position : Nat}
    {declared : Declaration}
    (found : root.children[position]? = some declared) :
    className root declared.id = declared.name := by
  rw [className, flat.class?At_eq found]

/-! ## One edge -/

theorem basesOf_concat_of_ne
    (earlier : List Edge)
    {edge : Edge}
    {number : DeclId}
    (other : edge.2 ≠ number) :
    basesOf (earlier ++ [edge]) number = basesOf earlier number := by
  simp [basesOf, other]

theorem basesOf_concat_self
    (earlier : List Edge)
    (edge : Edge) :
    basesOf (earlier ++ [edge]) edge.2 = basesOf earlier edge.2 ++ [edge.1] := by
  simp [basesOf]

/-- A class that receives nothing stays what it has become. -/
theorem ClassAfter.of_other
    {earlier : List Edge}
    {edge : Edge}
    {declared now linked : Declaration}
    (classAfter : ClassAfter hierarchy root supply earlier declared now)
    (other : edge.2 ≠ declared.id)
    (info_eq : ∃ extendedBy, linked.info =
      { now.info with extendedBy := extendedBy })
    (children_eq : linked.children = now.children) :
    ClassAfter hierarchy root supply (earlier ++ [edge]) declared linked := by
  obtain ⟨extendedBy, infoEq⟩ := info_eq
  have bases := basesOf_concat_of_ne earlier other
  refine
    { id_eq := ?_
      name_eq := ?_
      extendedTypes_eq := ?_
      ids_prefix := children_eq ▸ classAfter.ids_prefix
      members := ?_
      grouped := children_eq ▸ classAfter.grouped }
  · rw [Declaration.id, infoEq]
    exact classAfter.id_eq
  · rw [Declaration.name, infoEq]
    exact classAfter.name_eq
  · rw [infoEq, bases]
    exact classAfter.extendedTypes_eq
  · rw [children_eq, bases]
    exact classAfter.members

/-- A class that all its bases have been entered into has what the reference has. -/
theorem ClassAfter.complete
    (flat : Flat hierarchy root supply)
    {earlier : List Edge}
    {position : Nat}
    {declared now : Declaration}
    (found : root.children[position]? = some declared)
    (allBases : basesOf earlier declared.id =
      basesOf hierarchy.resolvedEdges declared.id)
    (classAfter : ClassAfter hierarchy root supply earlier declared now) :
    List.Forall₂ (Matches supply.next)
      (referenceMembers root hierarchy.resolvedEdges declared.id)
      now.children := by
  rw [referenceMembers_eq flat.acyclic, flat.ownMembers_eq found, ← allBases]
  exact classAfter.members

/-- What a class has received follows what it had, under the numbers it had. -/
theorem ids_prefix_received
    (before : Inheriting)
    (edge : Edge)
    (ancestor descendant : Declaration) :
    descendant.children.map Declaration.id <+:
      (received before edge ancestor descendant).target.children.map
        Declaration.id := by
  refine Injecting.foldl_inject_induction
    (motive := fun injecting =>
      descendant.children.map Declaration.id <+:
        injecting.target.children.map Declaration.id) ?_ ?_
  · have sameMembers := children_opening before edge ancestor descendant
    exact sameMembers ▸ List.prefix_refl _
  · intro between after member _ enters isPrefix
    exact isPrefix.trans enters.ids_prefix

theorem grouped_received
    (before : Inheriting)
    (edge : Edge)
    {ancestor descendant : Declaration}
    (ancestorGrouped :
      ∀ member ∈ ancestor.children, member.info.classify ≠ none)
    (descendantGrouped :
      ∀ member ∈ descendant.children, member.info.classify ≠ none) :
    ∀ member ∈ (received before edge ancestor descendant).target.children,
      member.info.classify ≠ none := by
  refine Injecting.foldl_inject_induction
    (motive := fun injecting =>
      ∀ member ∈ injecting.target.children, member.info.classify ≠ none) ?_ ?_
  · rw [children_opening]
    exact descendantGrouped
  · intro between after member isMember enters grouped
    exact enters.grouped (ancestorGrouped member isMember) grouped

/-- A class receives from a complete ancestor what the reference enters. -/
theorem ClassAfter.received
    (flat : Flat hierarchy root supply)
    {earlier : List Edge}
    {edge : Edge}
    {before : Inheriting}
    {ancestorPosition : Nat}
    {declaredAncestor declaredDescendant ancestor descendant : Declaration}
    (ancestorFound : root.children[ancestorPosition]? = some declaredAncestor)
    (isAncestor : declaredAncestor.id = edge.1)
    (isDescendant : declaredDescendant.id = edge.2)
    (isEdge : edge ∈ hierarchy.resolvedEdges)
    (complete : basesOf earlier edge.1 = basesOf hierarchy.resolvedEdges edge.1)
    (ancestorAfter :
      ClassAfter hierarchy root supply earlier declaredAncestor ancestor)
    (descendantAfter :
      ClassAfter hierarchy root supply earlier declaredDescendant descendant)
    (nextLe : supply.next ≤ before.supply.next)
    (distinct : ∀ member ∈ ancestor.children, member.ids.Nodup) :
    (Inheriting.received before edge ancestor descendant).failure = none ∧
      ClassAfter hierarchy root supply (earlier ++ [edge]) declaredDescendant
        (Inheriting.received before edge ancestor descendant).target.sortMembers := by
  obtain ⟨ancestorId, descendantId⟩ := edge
  obtain rfl : declaredAncestor.id = ancestorId := isAncestor
  obtain rfl : declaredDescendant.id = descendantId := isDescendant
  have ancestorGrouped := ancestorAfter.grouped
    (mem_endpoints_iff.mpr ⟨_, isEdge, .inl rfl⟩)
  have descendantGrouped := descendantAfter.grouped
    (mem_endpoints_iff.mpr ⟨_, isEdge, .inr rfl⟩)
  have nameEq : className root declaredAncestor.id = ancestor.name :=
    (flat.className_eq ancestorFound).trans ancestorAfter.name_eq.symm
  have bases := basesOf_concat_self earlier
    (declaredAncestor.id, declaredDescendant.id)
  have startMembers : List.Forall₂ (Matches supply.next)
      ((basesOf earlier declaredDescendant.id).foldl
        (enterBase root (referenceMembers root hierarchy.resolvedEdges))
        declaredDescendant.children)
      (opening before (declaredAncestor.id, declaredDescendant.id) ancestor
        descendant).target.children := by
    rw [children_opening]
    exact descendantAfter.members
  obtain ⟨entered, members⟩ :=
    Injecting.matches_foldl_inject (ancestorAfter.complete flat ancestorFound complete)
      ancestorGrouped distinct ancestor.name rfl nextLe startMembers
  have receives := regrouped_received before
    (declaredAncestor.id, declaredDescendant.id) ancestor descendant
  have regrouped := receives.trans (Regrouped.of_sortMembers _)
  refine ⟨entered, ?_⟩
  refine
    { id_eq := ?_
      name_eq := ?_
      extendedTypes_eq := ?_
      ids_prefix := ?_
      members := ?_
      grouped := ?_ }
  · rw [regrouped.id_eq, linkTo, Declaration.id_updateInfo]
    exact descendantAfter.id_eq
  · rw [regrouped.name_eq, linkTo, Declaration.name_updateInfo]
    exact descendantAfter.name_eq
  · obtain ⟨groups, infoEq⟩ := regrouped.info_eq
    rw [infoEq, linkTo, Declaration.info_updateInfo, bases, List.map_append,
      ← List.append_assoc, ← descendantAfter.extendedTypes_eq]
    simp [linkOf, nameEq]
  · rw [Declaration.children_sortMembers]
    exact descendantAfter.ids_prefix.trans (ids_prefix_received _ _ _ _)
  · rw [Declaration.children_sortMembers, bases, List.foldl_append,
      List.foldl_cons, List.foldl_nil, enterBase, nameEq]
    exact members
  · intro _
    rw [Declaration.children_sortMembers]
    exact grouped_received _ _ ancestorGrouped descendantGrouped

/-- What stands at the members of a root of which one is replaced and one linked. -/
theorem children_replaced_and_linked
    {root ancestor descendant : Declaration}
    {ancestorPosition descendantPosition : Nat}
    (apart : ancestorPosition ≠ descendantPosition)
    (ancestorFound : root.children[ancestorPosition]? = some ancestor)
    (descendantFound : root.children[descendantPosition]? = some descendant)
    (replacement : Declaration)
    (link : Declaration → Declaration) :
    let after :=
      (root.replaceAt replacement [descendantPosition]).updateAt
        [ancestorPosition] link
    after.children[descendantPosition]? = some replacement ∧
      after.children[ancestorPosition]? = some (link ancestor) ∧
      ∀ position, position ≠ ancestorPosition → position ≠ descendantPosition →
        after.children[position]? = root.children[position]? := by
  simp only [← Declaration.descendant?_singleton] at *
  have notPrefix {first second : Nat} (ne : first ≠ second) :
      ¬ [first] <+: [second] := by
    simpa using ne
  have elsewhere {position other : Nat} (ne : position ≠ other)
      (tree one : Declaration) :
      (tree.replaceAt one [other]).descendant? [position] =
        tree.descendant? [position] :=
    Declaration.descendant?_replaceAt_of_not_prefix one (notPrefix ne.symm)
      (notPrefix ne)
  have replaced :=
    Declaration.descendant?_replaceAt_self descendantFound replacement
  have ancestorKept := (elsewhere apart root replacement).trans ancestorFound
  rw [Declaration.updateAt_eq_replaceAt ancestorKept]
  refine ⟨?_, ?_, ?_⟩
  · rw [elsewhere apart.symm]
    exact replaced
  · exact Declaration.descendant?_replaceAt_self ancestorKept _
  · intro position notAncestor notDescendant
    rw [elsewhere notAncestor, elsewhere notDescendant]

/-- Where the class at an end of an edge stands, and what it has become. -/
structure ClassNow
    (hierarchy : Hierarchy)
    (root : Declaration)
    (supply : IdSupply)
    (earlier : List Edge)
    (before : Inheriting)
    (number : DeclId)
    (position : Nat)
    (declared current : Declaration) :
    Prop where
  declared_at : root.children[position]? = some declared
  id_eq : declared.id = number
  looked : root.childPaths.lookup number = some [position]
  current_at : before.root.children[position]? = some current
  after : ClassAfter hierarchy root supply earlier declared current

variable
    {earlier : List Edge}
    {edge : Edge}
    {before : Inheriting}

/-- The class at an end of an edge stands somewhere. -/
theorem RunAfter.exists_classNow
    (runAfter : RunAfter hierarchy root supply earlier before)
    (flat : Flat hierarchy root supply)
    {number : DeclId}
    (isEnd : number ∈ endpoints hierarchy.resolvedEdges) :
    ∃ position declared current,
      ClassNow hierarchy root supply earlier before number position
        declared current := by
  obtain ⟨position, declared, found, isNumber, looked⟩ :=
    flat.exists_position isEnd
  obtain ⟨current, currentFound, classAfter⟩ :=
    runAfter.classes position declared found
  exact ⟨position, declared, current, found, isNumber, looked, currentFound,
    classAfter⟩

/-- The classes of a run after the descendant was replaced and the ancestor linked. -/
theorem RunAfter.classes_linked
    (runAfter : RunAfter hierarchy root supply earlier before)
    (flat : Flat hierarchy root supply)
    {ancestorPosition descendantPosition : Nat}
    {declaredAncestor declaredDescendant ancestor descendant : Declaration}
    (different : edge.1 ≠ edge.2)
    (ancestorNow : ClassNow hierarchy root supply earlier before edge.1
      ancestorPosition declaredAncestor ancestor)
    (descendantNow : ClassNow hierarchy root supply earlier before edge.2
      descendantPosition declaredDescendant descendant)
    {replacement : Declaration}
    (replacementAfter : ClassAfter hierarchy root supply (earlier ++ [edge])
      declaredDescendant replacement)
    {position : Nat}
    {declared : Declaration}
    (found : root.children[position]? = some declared) :
    ∃ current,
      ((before.root.replaceAt replacement [descendantPosition]).updateAt
          [ancestorPosition] (linkBack edge.2 descendant.name)).children[position]? =
        some current ∧
      ClassAfter hierarchy root supply (earlier ++ [edge]) declared current := by
  have apart : ancestorPosition ≠ descendantPosition := by
    rintro rfl
    obtain rfl : declaredAncestor = declaredDescendant :=
      Option.some.inj
        (ancestorNow.declared_at.symm.trans descendantNow.declared_at)
    exact different (ancestorNow.id_eq.symm.trans descendantNow.id_eq)
  obtain ⟨descendantFound, ancestorFound, othersFound⟩ :=
    children_replaced_and_linked apart ancestorNow.current_at
      descendantNow.current_at replacement (linkBack edge.2 descendant.name)
  -- The descendant has received, the ancestor got a link, all others stayed.
  by_cases isDescendant : position = descendantPosition
  · subst isDescendant
    obtain rfl : declared = declaredDescendant :=
      Option.some.inj (found.symm.trans descendantNow.declared_at)
    exact ⟨replacement, descendantFound, replacementAfter⟩
  · have other : edge.2 ≠ declared.id := by
      intro same
      exact isDescendant (flat.position_eq found descendantNow.declared_at
        (descendantNow.id_eq.trans same).symm)
    by_cases isAncestor : position = ancestorPosition
    · subst isAncestor
      obtain rfl : declared = declaredAncestor :=
        Option.some.inj (found.symm.trans ancestorNow.declared_at)
      refine ⟨_, ancestorFound, ancestorNow.after.of_other other ?_ ?_⟩
      · exact ⟨_, Declaration.info_updateInfo _ ancestor⟩
      · exact Declaration.children_updateInfo _ ancestor
    · obtain ⟨current, currentFound, currentAfter⟩ :=
        runAfter.classes position declared found
      refine ⟨current, ?_, currentAfter.of_other other ⟨_, rfl⟩ rfl⟩
      rw [othersFound position isAncestor isDescendant]
      exact currentFound

/--
Following an edge of the schedule brings every class to what it should be after
that edge.  The edges into the ancestor all came before, so it is complete.
-/
theorem RunAfter.step
    {later : List Edge}
    (runAfter : RunAfter hierarchy root supply earlier
      (flowAlong root supply earlier))
    (flat : Flat hierarchy root supply)
    (scheduled : schedule hierarchy.resolvedEdges = earlier ++ edge :: later) :
    RunAfter hierarchy root supply (earlier ++ [edge])
      (flowAlong root supply (earlier ++ [edge])) := by
  have isEdge : edge ∈ hierarchy.resolvedEdges := by
    refine schedule_subset _ ?_
    rw [scheduled]
    exact List.mem_append_right _ List.mem_cons_self
  -- The schedule has put every edge into the ancestor before this one.
  have complete : basesOf earlier edge.1 =
      basesOf hierarchy.resolvedEdges edge.1 := by
    rw [basesOf, basesOf, filter_earlier flat.acyclic scheduled]
  obtain ⟨ancestorPosition, declaredAncestor, ancestor, ancestorNow⟩ :=
    runAfter.exists_classNow flat (mem_endpoints_iff.mpr ⟨edge, isEdge, .inl rfl⟩)
  obtain ⟨descendantPosition, declaredDescendant, descendant, descendantNow⟩ :=
    runAfter.exists_classNow flat (mem_endpoints_iff.mpr ⟨edge, isEdge, .inr rfl⟩)
  have numbered := numberedFrom_flowAlong flat.numbered earlier
  have nextLe := (covers_flowAlong root supply earlier).le
  have flows :=
    flows_propagate root.childPaths (flowAlong root supply earlier) edge
  rw [flowAlong_concat]
  generalize flowAlong root supply earlier = before at *
  obtain ⟨entered, receivedAfter⟩ :=
    ClassAfter.received flat ancestorNow.declared_at ancestorNow.id_eq
      descendantNow.id_eq isEdge complete ancestorNow.after descendantNow.after
      nextLe fun member isMember =>
        Declaration.nodup_ids_of_child
          (Declaration.nodup_ids_of_child numbered.distinct
            (List.mem_of_getElem? ancestorNow.current_at)) isMember
  have meets : Meets root.childPaths before.root edge [ancestorPosition]
      [descendantPosition] ancestor descendant :=
    { ancestor_path := ancestorNow.looked
      descendant_path := descendantNow.looked
      ancestor_found :=
        (Declaration.descendant?_singleton _ _).trans ancestorNow.current_at
      descendant_found :=
        (Declaration.descendant?_singleton _ _).trans descendantNow.current_at }
  obtain ⟨runs, root_eq⟩ := flows.entered runAfter.running meets entered
  refine ⟨runs, ?_⟩
  intro position declared found
  rw [root_eq]
  exact runAfter.classes_linked flat (flat.acyclic.ne isEdge) ancestorNow
    descendantNow receivedAfter found

/-- After any first edges of the schedule every class is what it should be then. -/
theorem runAfter_flowAlong
    (flat : Flat hierarchy root supply)
    {later : List Edge}
    (scheduled : schedule hierarchy.resolvedEdges = earlier ++ later) :
    RunAfter hierarchy root supply earlier (flowAlong root supply earlier) := by
  induction earlier using List.reverseRecOn generalizing later with
  | nil =>
      exact runAfter_nil flat
  | append_singleton earlier edge inductionHypothesis =>
      rw [List.append_assoc, List.singleton_append] at scheduled
      exact (inductionHypothesis scheduled).step flat scheduled

/-! ## The whole run -/

/-- A class that has become what it should be. -/
structure Agrees
    (hierarchy : Hierarchy)
    (root : Declaration)
    (supply : IdSupply)
    (declared now : Declaration) :
    Prop where
  id_eq : now.id = declared.id
  name_eq : now.name = declared.name
  /-- It extends its known bases, in their order. -/
  extendedTypes_eq : now.info.extendedTypes =
    declared.info.extendedTypes ++
      (hierarchy.knownBases declared.id).map (linkOf root)
  /-- Its own members are still the first ones and have their numbers. -/
  ids_prefix : declared.children.map Declaration.id <+:
    now.children.map Declaration.id
  /-- Its members are those of the reference, up to the numbers of copies. -/
  members : List.Forall₂ (Matches supply.next)
    (referenceMembers root hierarchy.resolvedEdges declared.id)
    now.children

/--
If the classes of a hierarchy are members of the root and no class leads back to
itself, resolving the hierarchy does not fail, and every class gets the links to
its known bases and the members that the recursion over them gives, up to the
numbers of copies.
-/
theorem resolve_agrees_with_reference
    (flat : Flat hierarchy root supply) :
    let resolved := hierarchy.resolve root supply
    let membersOf := referenceMembers root hierarchy.resolvedEdges
    resolved.failure = none ∧
      NumberedFrom resolved.supply resolved.root ∧
      (∀ number, membersOf number =
        (hierarchy.knownBases number).foldl (enterBase root membersOf)
          (ownMembers root number)) ∧
      ∀ (position : Nat) (declared : Declaration),
        root.children[position]? = some declared →
          ∃ now, resolved.root.children[position]? = some now ∧
            Agrees hierarchy root supply declared now := by
  have scheduled : schedule hierarchy.resolvedEdges =
      schedule hierarchy.resolvedEdges ++ [] :=
    (List.append_nil _).symm
  have runAfter := runAfter_flowAlong flat scheduled
  simp only [resolve_eq_flowAlong]
  refine ⟨runAfter.running, numberedFrom_flowAlong flat.numbered _, ?_, ?_⟩
  · intro number
    rw [← basesOf_resolvedEdges]
    exact referenceMembers_eq flat.acyclic root number
  · intro position declared found
    obtain ⟨now, nowFound, classAfter⟩ := runAfter.classes position declared found
    have allBases : basesOf (schedule hierarchy.resolvedEdges) declared.id =
        basesOf hierarchy.resolvedEdges declared.id := by
      rw [basesOf, basesOf, filter_schedule]
    refine ⟨now, nowFound, ?_⟩
    exact
      { id_eq := classAfter.id_eq
        name_eq := classAfter.name_eq
        extendedTypes_eq := by
          rw [← basesOf_resolvedEdges, ← allBases]
          exact classAfter.extendedTypes_eq
        ids_prefix := classAfter.ids_prefix
        members := classAfter.complete flat found allBases }

/-- A class that extends two others and declares nothing. -/
def bottomClass : Declaration :=
  .node { id := 6, name := "Bottom", kind := .classDecl } [] [] []

/-- A base whose method two classes inherit, one of which overrides it silently. -/
def diamondClasses : Declaration :=
  .node { id := 0, name := "project", kind := .project }
    [ .node { id := 1, name := "Base", kind := .classDecl }
        [ .ofInfo
            { id := 2
              name := "run"
              kind := .method
              comment := some (.ofSummary "Runs") } ] [] [],
      .node { id := 3, name := "Left", kind := .classDecl }
        [.ofInfo { id := 4, name := "run", kind := .method }] [] [],
      .node { id := 5, name := "Right", kind := .classDecl } [] [] [],
      bottomClass ]
    [] []

/-- Two classes extend the base, and one extends them both. -/
def diamond : Hierarchy where
  classes := [("Bottom", 6), ("Right", 5), ("Left", 3), ("Base", 1)]
  edges := [⟨"Base", 3⟩, ⟨"Base", 5⟩, ⟨"Left", 6⟩, ⟨"Right", 6⟩]

/-- Members can flow in the diamond. -/
theorem flat_diamond : Flat diamond diamondClasses ⟨7⟩ where
  numbered := ⟨by decide, by decide⟩
  top := by decide
  grouped := by decide
  acyclic := acyclic_of_lt (by decide)

/-- The class at the bottom of the diamond gets what the reference gives it. -/
theorem resolve_agrees_with_reference_of_diamond :
    Flat diamond diamondClasses ⟨7⟩ ∧
      (diamond.resolve diamondClasses ⟨7⟩).failure = none ∧
      diamond.knownBases bottomClass.id = [3, 5] ∧
      ∃ now,
        (diamond.resolve diamondClasses ⟨7⟩).root.children[3]? = some now ∧
          Agrees diamond diamondClasses ⟨7⟩ bottomClass now := by
  obtain ⟨runs, -, -, agrees⟩ := resolve_agrees_with_reference flat_diamond
  exact ⟨flat_diamond, runs, by decide, agrees 3 bottomClass rfl⟩

example :
    (referenceMembers diamondClasses diamond.resolvedEdges 6).map
        (fun member => (member.name, member.info.hasSummary,
          member.info.inheritedFrom)) =
      [("run", true, some ⟨"Base.run", some 2⟩)] := by
  decide +kernel

end Hierarchy

end ApiTree.Decl
