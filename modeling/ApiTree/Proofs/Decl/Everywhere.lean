import ApiTree.Proofs.Decl.Numbering

namespace ApiTree.Decl

/-!
# What holds of every node

A property of a node's information holds everywhere in a tree if it holds of the
node at the top and everywhere in what that node owns.  A copy gets new numbers
and a new origin, and its groups follow the numbers; a property that reads none
of them holds of the copy as well.
-/

/-- A property that does not depend on numbers and groups. -/
def Renumberable (holds : Info → Prop) : Prop :=
  ∀ (info : Info) (id : DeclId) (groups : List Group),
    holds info → holds { info with id := id, groups := groups }

/-- A property that is kept when an origin is recorded. -/
def Stampable
    (holds : Info → Prop)
    (origin : Link) :
    Prop :=
  ∀ info, holds info → holds { info with inheritedFrom := some origin }

/-- A property that does not depend on numbers, groups and origins. -/
def Portable (holds : Info → Prop) : Prop :=
  ∀ (info : Info) (id : DeclId) (groups : List Group) (origin : Option Link),
    holds info →
      holds { info with id := id, groups := groups, inheritedFrom := origin }

theorem Portable.renumberable
    {holds : Info → Prop}
    (portable : Portable holds) :
    Renumberable holds :=
  fun info id groups holdsHere => portable info id groups info.inheritedFrom holdsHere

theorem Portable.stampable
    {holds : Info → Prop}
    (portable : Portable holds)
    (origin : Link) :
    Stampable holds origin :=
  fun info holdsHere => portable info info.id info.groups (some origin) holdsHere

namespace Declaration

/-- That a property holds of every node. -/
def Everywhere
    (holds : Info → Prop)
    (declaration : Declaration) :
    Prop :=
  ∀ info ∈ declaration.infos, holds info

variable
    {holds : Info → Prop}

/-- A property holds everywhere in a node if it does at the top and below. -/
theorem everywhere_iff
    {declaration : Declaration} :
    declaration.Everywhere holds ↔
      holds declaration.info ∧
        (∀ child ∈ declaration.children, child.Everywhere holds) ∧
        (∀ signature ∈ declaration.signatures, signature.Everywhere holds) ∧
        (∀ parameter ∈ declaration.parameters,
          parameter.Everywhere holds) := by
  cases declaration with
  | node info children signatures parameters =>
      simp only [Everywhere, infos_node, List.mem_cons, List.mem_append,
        List.mem_flatMap, info_node, children_node, signatures_node,
        parameters_node]
      constructor
      · intro everywhere
        refine ⟨everywhere info (.inl rfl), ?_, ?_, ?_⟩
        · intro child member one inChild
          exact everywhere one (.inr (.inl ⟨child, member, inChild⟩))
        · intro signature member one inSignature
          exact everywhere one
            (.inr (.inr (.inl ⟨signature, member, inSignature⟩)))
        · intro parameter member one inParameter
          exact everywhere one
            (.inr (.inr (.inr ⟨parameter, member, inParameter⟩)))
      · rintro ⟨atTop, inChildren, inSignatures, inParameters⟩ one
          (rfl | ⟨child, member, inChild⟩ | ⟨signature, member, inSignature⟩ |
            ⟨parameter, member, inParameter⟩)
        · exact atTop
        · exact inChildren child member one inChild
        · exact inSignatures signature member one inSignature
        · exact inParameters parameter member one inParameter

theorem Everywhere.descendant?
    {declaration found : Declaration}
    {path : Path}
    (everywhere : declaration.Everywhere holds)
    (leads : declaration.descendant? path = some found) :
    found.Everywhere holds :=
  fun info inFound => everywhere info (infos_subset_of_descendant? leads inFound)

theorem Everywhere.replaceAt
    {declaration found replacement : Declaration}
    {path : Path}
    (everywhere : declaration.Everywhere holds)
    (leads : declaration.descendant? path = some found)
    (replacementHolds : replacement.Everywhere holds) :
    (declaration.replaceAt replacement path).Everywhere holds := by
  obtain ⟨before, after, shape, replacedShape⟩ := exists_infos_around leads
  intro info member
  rw [replacedShape replacement] at member
  have around (inAround : info ∈ before ∨ info ∈ after) :
      info ∈ declaration.infos := by
    rw [shape]
    rcases inAround with inBefore | inAfter
    · exact List.mem_append_left _ inBefore
    · exact List.mem_append_right _ (List.mem_append_right _ inAfter)
  rcases List.mem_append.mp member with inBefore | inRest
  · exact everywhere info (around (.inl inBefore))
  · rcases List.mem_append.mp inRest with inReplacement | inAfter
    · exact replacementHolds info inReplacement
    · exact everywhere info (around (.inr inAfter))

theorem Everywhere.updateInfo
    {change : Info → Info}
    {declaration : Declaration}
    (everywhere : declaration.Everywhere holds)
    (atTop : holds (change declaration.info)) :
    (declaration.updateInfo change).Everywhere holds := by
  cases declaration
  obtain ⟨-, below⟩ := everywhere_iff.mp everywhere
  exact everywhere_iff.mpr ⟨atTop, below⟩

/-- After a change of every node a property holds where it holds of the change. -/
theorem everywhere_mapInfo_iff
    {change : Info → Info}
    {declaration : Declaration} :
    (declaration.mapInfo change).Everywhere holds ↔
      declaration.Everywhere fun info => holds (change info) := by
  simp [Everywhere, infos_mapInfo]

/-! ## Copies -/

theorem everywhere_assignAll
    {declarations : List Declaration}
    (each : ∀ one ∈ declarations, ∀ supply,
      one.Everywhere holds → (one.assign supply).1.Everywhere holds)
    (everywhere : ∀ one ∈ declarations, one.Everywhere holds)
    (supply : IdSupply) :
    ∀ one ∈ (assignAll supply declarations).1, one.Everywhere holds := by
  induction declarations generalizing supply with
  | nil =>
      intro one member
      cases member
  | cons first rest inductionHypothesis =>
      intro one member
      rcases List.mem_cons.mp member with rfl | inRest
      · exact each first List.mem_cons_self supply
          (everywhere first List.mem_cons_self)
      · exact inductionHypothesis
          (fun other isOther => each other (List.mem_cons_of_mem _ isOther))
          (fun other isOther =>
            everywhere other (List.mem_cons_of_mem _ isOther))
          _ one inRest

variable
    (renumberable : Renumberable holds)

include renumberable

/-- A property that does not read numbers holds under another one. -/
theorem holds_of_id
    {info : Info}
    (holdsHere : holds info)
    (id : DeclId) :
    holds { info with id := id } :=
  renumberable info id info.groups holdsHere

/-- A property that does not read groups holds with others. -/
theorem holds_of_groups
    {info : Info}
    (holdsHere : holds info)
    (groups : List Group) :
    holds { info with groups := groups } :=
  renumberable info info.id groups holdsHere

/-- What does not read numbers holds of a declaration after it is numbered. -/
theorem everywhere_assign
    {declaration : Declaration}
    (supply : IdSupply)
    (everywhere : declaration.Everywhere holds) :
    (declaration.assign supply).1.Everywhere holds := by
  induction declaration using ownedInduction generalizing supply with
  | node info children signatures parameters
      childrenHold signaturesHold parametersHold =>
      obtain ⟨atTop, inChildren, inSignatures, inParameters⟩ :=
        everywhere_iff.mp everywhere
      refine everywhere_iff.mpr ⟨holds_of_id renumberable atTop _, ?_, ?_, ?_⟩
      · exact everywhere_assignAll childrenHold inChildren _
      · exact everywhere_assignAll signaturesHold inSignatures _
      · exact everywhere_assignAll parametersHold inParameters _

/-- What does not read numbers holds after what a declaration owns is numbered. -/
theorem everywhere_assignOwned
    {declaration : Declaration}
    (supply : IdSupply)
    (everywhere : declaration.Everywhere holds) :
    (declaration.assignOwned supply).1.Everywhere holds := by
  cases declaration with
  | node info children signatures parameters =>
      obtain ⟨atTop, inChildren, inSignatures, inParameters⟩ :=
        everywhere_iff.mp everywhere
      have each (one : Declaration) (next : IdSupply) :
          one.Everywhere holds → (one.assign next).1.Everywhere holds :=
        everywhere_assign renumberable next
      refine everywhere_iff.mpr ⟨atTop, ?_, ?_, ?_⟩
      · exact everywhere_assignAll (fun one _ => each one) inChildren _
      · exact everywhere_assignAll (fun one _ => each one)
          inSignatures _
      · exact everywhere_assignAll (fun one _ => each one)
          inParameters _

theorem Everywhere.renumber
    {declaration : Declaration}
    (everywhere : declaration.Everywhere holds)
    (supply : IdSupply) :
    (declaration.renumber supply).1.Everywhere holds :=
  everywhere_mapInfo_iff.mpr fun info member =>
    holds_of_groups renumberable
      (everywhere_assign renumberable supply everywhere info member) _

theorem Everywhere.renumberOwned
    {declaration : Declaration}
    (everywhere : declaration.Everywhere holds)
    (supply : IdSupply) :
    (declaration.renumberOwned supply).1.Everywhere holds :=
  everywhere_mapInfo_iff.mpr fun info member =>
    holds_of_groups renumberable
      (everywhere_assignOwned renumberable supply everywhere info member) _

end Declaration

end ApiTree.Decl
