import ApiTree.Proofs.Decl.Everywhere
import ApiTree.Proofs.Hierarchy.Agreement
import ApiTree.Proofs.Hierarchy.Presentation
import ApiTree.Proofs.Hierarchy.Relinking

namespace ApiTree.Decl

/-!
# What members pass on

Some facts about the members of a declaration do not depend on their numbers: that
each has a group, say, or that no two have one name.  If such a fact is kept when a
copy is appended and when a member is filled in, it holds of all members below the
top after members have flowed if it held of them before.  If every member has a
group then, nothing is refused.
-/

/-- What a copy differs in from what it is a copy of. -/
def CopiedFrom (member copy : Info) : Prop :=
  ∃ id groups origin,
    copy =
      { member with
        id := id
        groups := groups
        inheritedFrom := some origin }

/-- A fact about members that is kept when members are renamed, copied and filled in. -/
structure Heritable (good : List Info → Prop) : Prop where
  relinked : ∀ before after, List.Forall₂ Relinked before after →
    good before → good after
  renamed : ∀ names infos, good infos →
    good (infos.map (Declaration.renameInfo names))
  appended : ∀ members infos member copy, member ∈ members →
    CopiedFrom member copy → (∀ one ∈ infos, one.name ≠ member.name) →
      good members → good infos → good (infos ++ [copy])
  filled : ∀ members front own back member copy, member ∈ members →
    CopiedFrom member copy → (∀ one ∈ front, one.name ≠ member.name) →
      own.name = member.name → good members →
        good (front ++ own :: back) → good (front ++ copy :: back)

variable
    {good : List Info → Prop}

/-- What members pass on, as a fact about the declaration that presents them. -/
abbrev OfMembers (good : List Info → Prop) : Presentation :=
  fun _ infos => good infos

theorem Heritable.steady
    (heritable : Heritable good) :
    Steady (OfMembers good) :=
  fun _ => heritable.relinked

theorem sortable_ofMembers (good : List Info → Prop) :
    Sortable (OfMembers good) :=
  fun _ _ holds => holds

/-! ## Facts that are passed on -/

/-- A fact about each member that reads neither numbers, groups nor links. -/
theorem heritable_of_each
    {holds : Info → Prop}
    (portable : Portable holds)
    (relinkable : Relinkable holds) :
    Heritable fun infos => ∀ info ∈ infos, holds info where
  relinked := by
    intro before after relinked holdsBefore info isMember
    induction relinked with
    | nil => cases isMember
    | cons firstRelinked _ inductionHypothesis =>
        obtain ⟨holdsFirst, holdsRest⟩ := List.forall_mem_cons.mp holdsBefore
        rcases List.mem_cons.mp isMember with rfl | inRest
        · exact relinkable _ _ firstRelinked holdsFirst
        · exact inductionHypothesis holdsRest inRest
  renamed := by
    intro names infos holdsBefore
    refine List.forall_mem_map.mpr fun info isMember => ?_
    exact portable info (names info.id) _ info.inheritedFrom
      (holdsBefore info isMember)
  appended := by
    rintro members infos member copy isMember ⟨id, groups, origin, rfl⟩ -
      membersHold holdsBefore
    refine List.forall_mem_append.mpr
      ⟨holdsBefore, List.forall_mem_singleton.mpr ?_⟩
    exact portable _ _ _ _ (membersHold member isMember)
  filled := by
    rintro members front own back member copy isMember ⟨id, groups, origin, rfl⟩
      - - membersHold holdsBefore
    obtain ⟨inFront, inRest⟩ := List.forall_mem_append.mp holdsBefore
    obtain ⟨-, inBack⟩ := List.forall_mem_cons.mp inRest
    refine List.forall_mem_append.mpr
      ⟨inFront, List.forall_mem_cons.mpr ⟨?_, inBack⟩⟩
    exact portable _ _ _ _ (membersHold member isMember)

/-- That a member has a group. -/
def Grouped (info : Info) : Prop :=
  info.classify ≠ none

theorem heritable_grouped :
    Heritable fun infos => ∀ info ∈ infos, Grouped info :=
  heritable_of_each (fun _ _ _ _ grouped => grouped) <| by
    rintro before after ⟨_, _, _, rfl⟩ grouped
    exact grouped

/-- What tells members apart that have one name: the name and the origin. -/
def Info.label (info : Info) : String × Option Link :=
  (info.name, info.inheritedFrom)

/-- That of the members of one name all but the first have an allowed origin. -/
def Namesakes
    (allowed : Option Link → Prop)
    (infos : List Info) :
    Prop :=
  (infos.map Info.label).Pairwise fun one other =>
    one.1 = other.1 → allowed other.2

/-- A member is entered under a name that is new, or in the place of the first. -/
theorem heritable_namesakes (allowed : Option Link → Prop) :
    Heritable (Namesakes allowed) where
  relinked := by
    intro before after relinked namesakes
    have sameLabels : after.map Info.label = before.map Info.label := by
      induction relinked with
      | nil => rfl
      | cons firstRelinked _ inductionHypothesis =>
          rw [List.map_cons, List.map_cons,
            inductionHypothesis (List.pairwise_cons.mp namesakes).2, Info.label,
            firstRelinked.name_eq, firstRelinked.inheritedFrom_eq]
          rfl
    rw [Namesakes, sameLabels]
    exact namesakes
  renamed := by
    intro names infos namesakes
    rw [Namesakes, List.map_map]
    exact namesakes
  appended := by
    rintro members infos member copy - ⟨id, groups, origin, rfl⟩ otherNames -
      namesakes
    rw [Namesakes, List.map_append, List.pairwise_append]
    refine ⟨namesakes, List.pairwise_singleton _ _, ?_⟩
    intro label isLabel other isOther sameName
    obtain ⟨one, isOne, rfl⟩ := List.mem_map.mp isLabel
    obtain rfl := List.mem_singleton.mp isOther
    exact (otherNames one isOne sameName).elim
  filled := by
    rintro members front own back member copy - ⟨id, groups, origin, rfl⟩
      otherNames sameName - namesakes
    simp only [Namesakes, List.map_append, List.map_cons, List.pairwise_append,
      List.pairwise_cons, List.forall_mem_cons, List.forall_mem_map] at namesakes ⊢
    obtain ⟨inFront, ⟨ownFirst, inBack⟩, between⟩ := namesakes
    refine ⟨inFront, ⟨?_, inBack⟩, ?_⟩
    · intro other isOther same
      exact ownFirst other isOther (sameName.trans same)
    · intro one isOne
      exact ⟨fun same => (otherNames one isOne same).elim, (between one isOne).2⟩

/-! ## Entering members -/

namespace Injecting

/-- No member of a name is found exactly if no member has the name. -/
theorem memberPosition?_eq_none_iff
    {name : String}
    {members : List Declaration} :
    memberPosition? name members = none ↔
      ∀ one ∈ members, one.name ≠ name := by
  simp [memberPosition?]

/-- What stands before the first member of a name has another name. -/
theorem exists_around_memberPosition?
    {name : String}
    {members : List Declaration}
    {position : Nat}
    {own : Declaration}
    (first : memberPosition? name members = some position)
    (found : members[position]? = some own) :
    own.name = name ∧
      ∃ front back,
        members = front ++ own :: back ∧
          (∀ one ∈ front, one.name ≠ name) ∧
          ∀ replacement,
            members.set position replacement = front ++ replacement :: back := by
  obtain ⟨inside, isNamed, earlier⟩ := List.findIdx?_eq_some_iff_getElem.mp first
  obtain ⟨front, back, shape, lengthEq, setShape⟩ :=
    Declaration.exists_around found
  obtain ⟨_, rfl⟩ := List.getElem?_eq_some_iff.mp found
  refine ⟨by simpa using isNamed, front, back, shape, ?_, setShape⟩
  intro one inFront
  obtain ⟨index, isBefore, isOne⟩ := List.getElem_of_mem inFront
  have other := earlier index (lengthEq ▸ isBefore)
  have sameMember : members[index]? = some one := by
    rw [shape, List.getElem?_append_left isBefore]
    exact List.getElem?_eq_some_iff.mpr ⟨isBefore, isOne⟩
  obtain ⟨_, atIndex⟩ := List.getElem?_eq_some_iff.mp sameMember
  simpa [atIndex] using other

variable
    {ancestorName : String}
    {members : List Declaration}
    {before after : Injecting}
    {member : Declaration}

theorem copiedFrom_copyOf
    (ancestorName : String)
    (supply : IdSupply)
    (member : Declaration) :
    CopiedFrom member.info (copyOf ancestorName supply member).info := by
  obtain ⟨id, groups, infoEq⟩ := info_copyOf ancestorName supply member
  exact ⟨id, groups, _, infoEq⟩

theorem copiedFrom_fillingOf
    (ancestorName : String)
    (supply : IdSupply)
    (own member : Declaration) :
    CopiedFrom member.info (fillingOf ancestorName supply own member).info := by
  obtain ⟨id, groups, infoEq⟩ := info_fillingOf ancestorName supply own member
  exact ⟨id, groups, _, infoEq⟩

/-- Renaming numbers keeps what members pass on. -/
theorem presentsThroughout_rename
    (heritable : Heritable good)
    (names : DeclId → DeclId)
    (throughout : member.PresentsThroughout (OfMembers good)) :
    (member.rename names).PresentsThroughout (OfMembers good) :=
  Declaration.presentsThroughout_mapInfo_iff.mpr fun node isNode =>
    heritable.renamed names _ (throughout node isNode)

/-- Entering a member keeps what members pass on. -/
theorem Enters.presentsThroughout
    (heritable : Heritable good)
    (enters : Enters ancestorName before member after)
    (isMember : member ∈ members)
    (membersGood : good (members.map Declaration.info))
    (distinct : member.ids.Nodup)
    (memberPresents : member.PresentsThroughout (OfMembers good))
    (throughout : before.target.PresentsThroughout (OfMembers good)) :
    after.target.PresentsThroughout (OfMembers good) := by
  have isInfo : member.info ∈ members.map Declaration.info :=
    List.mem_map_of_mem isMember
  have atTop := (Declaration.presentsThroughout_iff.mp throughout).1
  have inChildren : ∀ child ∈ before.target.children,
      child.PresentsThroughout (OfMembers good) :=
    fun _ => throughout.below.child
  cases enters with
  | halted _ same => exact same ▸ throughout
  | stands _ _ _ _ _ _ same => exact same ▸ throughout
  | refused _ _ _ same => exact same ▸ throughout
  | appends _ _ absent _ regrouped children_eq =>
      have otherNames := memberPosition?_eq_none_iff.mp absent
      refine presentsThroughout_of_regrouped regrouped throughout ?_ ?_
      · rw [Declaration.Presents, children_eq, List.map_append, List.map_singleton]
        exact heritable.appended _ _ _ _ isInfo (copiedFrom_copyOf _ _ member)
          (List.forall_mem_map.mpr otherNames) membersGood atTop
      · rw [children_eq]
        exact List.forall_mem_append.mpr
          ⟨inChildren,
            List.forall_mem_singleton.mpr
              (presentsThroughout_copyOf distinct
                (presentsThroughout_rename heritable _ memberPresents) _)⟩
  | fills position own _ first found _ regrouped children_eq =>
      obtain ⟨sameName, front, back, shape, otherNames, setShape⟩ :=
        exists_around_memberPosition? first found
      refine presentsThroughout_of_regrouped regrouped throughout ?_ ?_
      · rw [Declaration.Presents, shape, List.map_append, List.map_cons] at atTop
        rw [Declaration.Presents, children_eq, setShape, List.map_append,
          List.map_cons]
        exact heritable.filled _ _ _ _ _ _ isInfo
          (copiedFrom_fillingOf _ _ own member)
          (List.forall_mem_map.mpr otherNames) sameName membersGood atTop
      · intro child isChild
        rw [children_eq] at isChild
        rcases List.mem_or_eq_of_mem_set isChild with wasChild | rfl
        · exact inChildren child wasChild
        · exact presentsThroughout_fillingOf distinct
            (presentsThroughout_rename heritable _ memberPresents) _

end Injecting

namespace Inheriting

variable
    {paths : List (DeclId × Path)}
    {before after : Inheriting}
    {edge : Edge}

/-- What a class receives from another has what its members pass on. -/
theorem presentsThroughout_received
    (heritable : Heritable good)
    {ancestor descendant : Declaration}
    (distinct : ancestor.ids.Nodup)
    (ancestorPresents : ancestor.PresentsThroughout (OfMembers good))
    (descendantPresents : descendant.PresentsThroughout (OfMembers good)) :
    (received before edge ancestor descendant).target.PresentsThroughout
      (OfMembers good) := by
  have membersGood := (Declaration.presentsThroughout_iff.mp ancestorPresents).1
  refine Injecting.foldl_inject_induction
    (motive := fun injecting =>
      injecting.target.PresentsThroughout (OfMembers good)) ?_ ?_
  · exact (Declaration.presentsThroughout_updateInfo_iff (by rfl)).mpr
      descendantPresents
  · intro between after member isMember enters throughout
    exact enters.presentsThroughout heritable isMember membersGood
      (Declaration.nodup_ids_of_child distinct isMember)
      (ancestorPresents.below.child isMember) throughout

/-- An edge below the top keeps what members pass on. -/
theorem Flows.heritable
    (heritable : Heritable good)
    (flows : Flows paths before edge after)
    (inner : InnerEnds paths edge)
    (distinct : before.root.ids.Nodup)
    (below : before.root.PresentsBelow (OfMembers good)) :
    after.root.PresentsBelow (OfMembers good) :=
  flows.presentsBelow heritable.steady (sortable_ofMembers good) inner below
    fun _ _ _ _ meets =>
      presentsThroughout_received heritable
        (Declaration.nodup_ids_of_descendant? distinct meets.ancestor_found)

/-- Nothing is refused if every member of the ancestor has a group. -/
theorem failure_received
    {ancestor descendant : Declaration}
    (grouped : ∀ member ∈ ancestor.children, Grouped member.info) :
    (received before edge ancestor descendant).failure = none := by
  refine Injecting.foldl_inject_induction
    (motive := fun injecting => injecting.failure = none) rfl ?_
  intro between after member isMember enters running
  cases enters with
  | halted failed => exact (failed running).elim
  | stands _ _ _ _ _ _ same => exact same ▸ running
  | refused _ _ ungrouped => exact (grouped member isMember ungrouped).elim
  | appends _ _ _ _ _ _ _ _ _ runs => exact runs
  | fills _ _ _ _ _ _ _ _ _ _ _ runs => exact runs

/-- An edge below the top is followed without failure if all members have groups. -/
theorem Flows.failure_eq
    (flows : Flows paths before edge after)
    (inner : InnerEnds paths edge)
    (running : before.failure = none)
    (grouped : before.root.PresentsBelow
      (OfMembers fun infos => ∀ info ∈ infos, Grouped info)) :
    after.failure = none := by
  cases flows with
  | halted failed => exact (failed running).elim
  | skipped _ _ same => exact same ▸ running
  | fails _ _ ancestor _ _ _ meets failed =>
      have ancestorPresents :=
        grouped.descendant? (meets.inner inner).1 meets.ancestor_found
      have membersGrouped :=
        (Declaration.presentsThroughout_iff.mp ancestorPresents).1
      rw [failure_received (List.forall_mem_map.mp membersGrouped)] at failed
      cases failed
  | flows _ _ _ _ _ _ _ _ _ runs => exact runs

end Inheriting

namespace Hierarchy

open Inheriting

variable
    {root : Declaration}
    {supply : IdSupply}
    {edges : List Edge}

/-- What members pass on holds of all members below the top of a run. -/
theorem presentsBelow_flowAlong
    (heritable : Heritable good)
    (numbered : NumberedFrom supply root)
    (inner : ∀ edge ∈ edges, InnerEnds root.childPaths edge)
    (below : root.PresentsBelow (OfMembers good)) :
    (flowAlong root supply edges).root.PresentsBelow (OfMembers good) := by
  refine (flowAlong_induction
    (motive := fun now =>
      NumberedFrom now.supply now.root ∧
        now.root.PresentsBelow (OfMembers good))
    ⟨numbered, below⟩ ?_).2
  rintro before after edge isEdge flows ⟨beforeNumbered, beforeBelow⟩
  exact ⟨beforeNumbered.of_covers flows.covers_root,
    flows.heritable heritable (inner edge isEdge) beforeNumbered.distinct
      beforeBelow⟩

/-- If all members below the top have groups, a run does not fail. -/
theorem failure_flowAlong
    (numbered : NumberedFrom supply root)
    (inner : ∀ edge ∈ edges, InnerEnds root.childPaths edge)
    (grouped : root.PresentsBelow
      (OfMembers fun infos => ∀ info ∈ infos, Grouped info)) :
    (flowAlong root supply edges).failure = none := by
  induction edges using List.reverseRecOn with
  | nil =>
      rfl
  | append_singleton earlier edge inductionHypothesis =>
      obtain ⟨earlierInner, edgeInner⟩ := List.forall_mem_append.mp inner
      rw [flowAlong_concat]
      exact (flows_propagate root.childPaths _ edge).failure_eq
        (List.forall_mem_singleton.mp edgeInner)
        (inductionHypothesis earlierInner)
        (presentsBelow_flowAlong heritable_grouped numbered earlierInner grouped)

end Hierarchy

end ApiTree.Decl
