import ApiTree.Proofs.Hierarchy.Apart
import ApiTree.Proofs.Hierarchy.Covering

namespace ApiTree.Decl

/-!
# Classes that do not stand inside each other

If no class at an end of an edge stands inside another one, the members of these
classes change only by entering members of others of them.  So a class inherits
members, but nothing that its members own, and what is copied was not inherited
from what is copied with it.  If further the members of each class have different
names, members can be received along every edge.
-/

/-- What is kept of the members of a class when it enters those of another one. -/
def PassedOn (good : List Declaration → Prop) : Prop :=
  ∀ ancestorName members before member after,
    Injecting.Enters ancestorName before member after →
      member ∈ members → member.ids.Nodup → good members →
        good before.target.children → good after.target.children

/-- That nothing that members own was inherited. -/
def OwnsBelow (members : List Declaration) : Prop :=
  ∀ member ∈ members, ∀ info ∈ member.ownedInfos, info.inheritedFrom = none

/-- That members have different names. -/
def DifferentNames (members : List Declaration) : Prop :=
  (members.map Declaration.name).Nodup

instance (members : List Declaration) : Decidable (DifferentNames members) :=
  inferInstanceAs (Decidable (List.Nodup _))

namespace Injecting

variable
    {supply : IdSupply}
    {own member : Declaration}

/-- What a copy owns was inherited if what the member owns was. -/
theorem own_copyOf
    (distinct : member.ids.Nodup)
    (owns : ∀ info ∈ member.ownedInfos, info.inheritedFrom = none)
    (ancestorName : String) :
    ∀ info ∈ (copyOf ancestorName supply member).ownedInfos,
      info.inheritedFrom = none := by
  rw [ownedInfos_copyOf distinct]
  exact List.forall_mem_map.mpr owns

theorem own_fillingOf
    (distinct : member.ids.Nodup)
    (owns : ∀ info ∈ member.ownedInfos, info.inheritedFrom = none)
    (ancestorName : String) :
    ∀ info ∈ (fillingOf ancestorName supply own member).ownedInfos,
      info.inheritedFrom = none := by
  rw [ownedInfos_fillingOf distinct]
  exact List.forall_mem_map.mpr owns

end Injecting

/-- What is kept of each member if it holds of copies and of what fills in members. -/
theorem passedOn_of_each
    (holds : Declaration → Prop)
    (copied : ∀ ancestorName supply member, member.ids.Nodup → holds member →
      holds (Injecting.copyOf ancestorName supply member))
    (filled : ∀ ancestorName supply own member, member.ids.Nodup → holds member →
      holds (Injecting.fillingOf ancestorName supply own member)) :
    PassedOn fun members => ∀ member ∈ members, holds member := by
  intro ancestorName members before member after enters isMember distinct
    membersHold targetHolds
  have memberHolds := membersHold member isMember
  cases enters with
  | halted _ same => exact same ▸ targetHolds
  | stands _ _ _ _ _ _ same => exact same ▸ targetHolds
  | refused _ _ _ same => exact same ▸ targetHolds
  | appends _ _ _ _ _ children_eq =>
      rw [children_eq]
      exact List.forall_mem_append.mpr
        ⟨targetHolds, List.forall_mem_singleton.mpr
          (copied _ _ _ distinct memberHolds)⟩
  | fills _ _ _ _ _ _ _ children_eq =>
      intro child isChild
      rw [children_eq] at isChild
      rcases List.mem_or_eq_of_mem_set isChild with wasChild | rfl
      · exact targetHolds child wasChild
      · exact filled _ _ _ _ distinct memberHolds

theorem passedOn_ownsBelow : PassedOn OwnsBelow :=
  passedOn_of_each
    (fun member => ∀ info ∈ member.ownedInfos, info.inheritedFrom = none)
    (fun ancestorName _ _ distinct owns =>
      Injecting.own_copyOf distinct owns ancestorName)
    (fun ancestorName _ _ _ distinct owns =>
      Injecting.own_fillingOf distinct owns ancestorName)

/-- A fact about members that reads neither numbers, groups nor origins is kept. -/
theorem passedOn_of_portable
    {holds : Info → Prop}
    (portable : Portable holds) :
    PassedOn fun members => ∀ member ∈ members, holds member.info := by
  refine passedOn_of_each (fun member => holds member.info) ?_ ?_
  · intro ancestorName supply member _ holdsHere
    obtain ⟨id, groups, infoEq⟩ :=
      Injecting.info_copyOf ancestorName supply member
    rw [infoEq]
    exact portable _ _ _ _ holdsHere
  · intro ancestorName supply own member _ holdsHere
    obtain ⟨id, groups, infoEq⟩ :=
      Injecting.info_fillingOf ancestorName supply own member
    rw [infoEq]
    exact portable _ _ _ _ holdsHere

/-- A member is entered under a name that is new, or in the place of the first. -/
theorem passedOn_differentNames : PassedOn DifferentNames := by
  intro ancestorName members before member after enters _ _ _ different
  cases enters with
  | halted _ same => exact same ▸ different
  | stands _ _ _ _ _ _ same => exact same ▸ different
  | refused _ _ _ same => exact same ▸ different
  | appends _ _ absent _ _ children_eq =>
      obtain ⟨id, groups, infoEq⟩ :=
        Injecting.info_copyOf ancestorName before.supply member
      have copyName :
          (Injecting.copyOf ancestorName before.supply member).name =
            member.name := by
        rw [Declaration.name, infoEq]
        rfl
      rw [DifferentNames, children_eq, List.map_append, List.map_singleton,
        List.nodup_append, copyName]
      refine ⟨different, List.nodup_singleton _, ?_⟩
      intro name isName other isOther sameName
      obtain ⟨child, isChild, rfl⟩ := List.mem_map.mp isName
      exact Injecting.memberPosition?_eq_none_iff.mp absent child isChild
        (sameName.trans (List.mem_singleton.mp isOther))
  | fills _ own _ first found _ _ children_eq =>
      obtain ⟨sameName, front, back, shape, -, setShape⟩ :=
        Injecting.exists_around_memberPosition? first found
      unfold DifferentNames at different ⊢
      rw [shape, List.map_append, List.map_cons] at different
      rw [children_eq, setShape, List.map_append, List.map_cons,
        Injecting.name_fillingOf, ← sameName]
      exact different

/-! ## Classes at ends of edges -/

namespace Hierarchy

open Inheriting

variable
    {root tree : Declaration}
    {supply : IdSupply}
    {known edges : List Edge}
    {good : List Declaration → Prop}

/-- That something holds of the members of each class at an end of an edge. -/
def EndsHold
    (root : Declaration)
    (known : List Edge)
    (good : List Declaration → Prop)
    (tree : Declaration) :
    Prop :=
  ∀ path found, EndsAt root known path →
    tree.descendant? path = some found → good found.children

/-- The paths of the ends of edges. -/
def endPaths
    (root : Declaration)
    (known : List Edge) :
    List Path :=
  known.flatMap fun edge =>
    (root.childPaths.lookup edge.1).toList ++
      (root.childPaths.lookup edge.2).toList

theorem mem_endPaths_iff
    {path : Path} :
    path ∈ endPaths root known ↔ EndsAt root known path := by
  simp [endPaths, EndsAt]

instance (root : Declaration) (known : List Edge) :
    Decidable (Unnested root known) :=
  decidable_of_iff
    (∀ outer ∈ endPaths root known, ∀ inner ∈ endPaths root known,
      outer <+: inner → outer = inner) <| by
    simp only [mem_endPaths_iff]
    exact ⟨fun apart outer inner outerEnds innerEnds =>
        apart outer outerEnds inner innerEnds,
      fun apart outer outerEnds inner innerEnds =>
        apart outer inner outerEnds innerEnds⟩

instance
    (root : Declaration)
    (known : List Edge)
    (good : List Declaration → Prop)
    [DecidablePred good]
    (tree : Declaration) :
    Decidable (EndsHold root known good tree) :=
  decidable_of_iff
    (∀ path ∈ endPaths root known, ∀ found ∈ tree.descendant? path,
      good found.children) <| by
    simp only [mem_endPaths_iff]
    exact ⟨fun hold path found ends leads => hold path ends found leads,
      fun hold path ends found leads => hold path found ends leads⟩

theorem EndsHold.replaceAt
    (endsHold : EndsHold root known good tree)
    (unnested : Unnested root known)
    {path : Path}
    {found replacement : Declaration}
    (ends : EndsAt root known path)
    (leads : tree.descendant? path = some found)
    (holds : good replacement.children) :
    EndsHold root known good (tree.replaceAt replacement path) := by
  intro other current otherEnds otherLeads
  by_cases same : other = path
  · subst same
    rw [Declaration.descendant?_replaceAt_self leads] at otherLeads
    obtain rfl := Option.some.inj otherLeads
    exact holds
  · rw [unnested.descendant?_replaceAt ends otherEnds same] at otherLeads
    exact endsHold other current otherEnds otherLeads

/-- What a class receives from another holds of its members if it is passed on. -/
theorem EndsHold.good_received
    {before : Inheriting}
    {edge : Edge}
    {ancestorPath descendantPath : Path}
    {ancestor descendant : Declaration}
    (endsHold : EndsHold root known good before.root)
    (passedOn : PassedOn good)
    (isKnown : edge ∈ known)
    (distinct : before.root.ids.Nodup)
    (meets : Meets root.childPaths before.root edge ancestorPath descendantPath
      ancestor descendant) :
    good (received before edge ancestor descendant).target.children := by
  have ancestorHolds := endsHold ancestorPath ancestor
    ⟨edge, isKnown, .inl meets.ancestor_path⟩ meets.ancestor_found
  have descendantHolds := endsHold descendantPath descendant
    ⟨edge, isKnown, .inr meets.descendant_path⟩ meets.descendant_found
  refine Injecting.foldl_inject_induction
    (motive := fun injecting => good injecting.target.children) ?_ ?_
  · rw [children_opening]
    exact descendantHolds
  · intro between afterwards member isMember enters holds
    have memberDistinct := Declaration.nodup_ids_of_child
      (Declaration.nodup_ids_of_descendant? distinct meets.ancestor_found) isMember
    exact passedOn ancestor.name ancestor.children between member afterwards enters
      isMember memberDistinct ancestorHolds holds

/-- An edge between classes that stand apart keeps what is passed on. -/
theorem EndsHold.flows
    {before after : Inheriting}
    {edge : Edge}
    (endsHold : EndsHold root known good before.root)
    (passedOn : PassedOn good)
    (unnested : Unnested root known)
    (isKnown : edge ∈ known)
    (distinct : before.root.ids.Nodup)
    (flows : Flows root.childPaths before edge after) :
    EndsHold root known good after.root := by
  refine flows.root_induction endsHold ?_ ?_
  · intro ancestorPath descendantPath ancestor descendant meets
    have ends : EndsAt root known descendantPath :=
      ⟨edge, isKnown, .inr meets.descendant_path⟩
    have receivedHolds := endsHold.good_received passedOn isKnown distinct meets
    refine ⟨endsHold.replaceAt unnested ends meets.descendant_found receivedHolds,
      endsHold.replaceAt unnested ends meets.descendant_found ?_⟩
    rw [Declaration.children_sortMembers]
    exact receivedHolds
  · intro ancestorPath descendantPath ancestor descendant meets middle found
      middleHolds leads
    have ends : EndsAt root known ancestorPath :=
      ⟨edge, isKnown, .inl meets.ancestor_path⟩
    refine middleHolds.replaceAt unnested ends leads ?_
    rw [linkBack, Declaration.children_updateInfo]
    exact middleHolds ancestorPath found ends leads

/-- A run between classes that stand apart keeps what is passed on. -/
theorem endsHold_flowAlong
    (passedOn : PassedOn good)
    (unnested : Unnested root known)
    (numbered : NumberedFrom supply root)
    (included : edges ⊆ known)
    (endsHold : EndsHold root known good root) :
    EndsHold root known good (flowAlong root supply edges).root := by
  refine (flowAlong_induction
    (motive := fun now => NumberedFrom now.supply now.root ∧
      EndsHold root known good now.root)
    ⟨numbered, endsHold⟩ ?_).2
  rintro before after edge isEdge flows ⟨beforeNumbered, holds⟩
  exact ⟨beforeNumbered.of_covers flows.covers_root,
    holds.flows passedOn unnested (included isEdge) beforeNumbered.distinct flows⟩

theorem endsHold_ownsBelow
    (own : root.Everywhere fun info => info.inheritedFrom = none) :
    EndsHold root known OwnsBelow root := by
  intro path found _ leads member isMember info isInfo
  exact own.descendant? leads info (Declaration.infos_subset_of_child isMember
    (member.ownedInfos_subset_infos isInfo))

/-! ## Receiving members -/

/-- A member of a class at an end of an edge. -/
def EndMember
    (root : Declaration)
    (known : List Edge)
    (member : Declaration) :
    Prop :=
  ∃ path found, EndsAt root known path ∧ root.descendant? path = some found ∧
    member ∈ found.children

/-- That titles which fit an undocumented member fit all members of its name. -/
def FitsByName
    (fits : Info → String → Prop)
    (root : Declaration)
    (known : List Edge) :
    Prop :=
  ∀ own other, EndMember root known own → EndMember root known other →
    own.name = other.name → own.info.hasSummary = false →
      ∀ title, fits own.info title → fits other.info title

/-- What a member has in common with a member that there was before a run. -/
structure Resembles
    (fits : Info → String → Prop)
    (original : Declaration)
    (info : Info) :
    Prop where
  name_eq : info.name = original.name
  hasSummary_eq : info.hasSummary = original.info.hasSummary
  fits_iff : ∀ title, fits info title ↔ fits original.info title

theorem portable_resembles
    (root : Declaration)
    (known : List Edge)
    {fits : Info → String → Prop}
    (fitting : Fitting fits) :
    Portable fun info =>
      ∃ original, EndMember root known original ∧
        Resembles fits original info := by
  rintro info id groups origin ⟨original, isEndMember, resembles⟩
  refine ⟨original, isEndMember, resembles.name_eq, resembles.hasSummary_eq, ?_⟩
  exact fun title =>
    (fitting.copied_iff info id groups origin).trans (resembles.fits_iff title)

/-- After a run members of classes that stand apart resemble those from before it. -/
theorem endsHold_resembles
    {fits : Info → String → Prop}
    (fitting : Fitting fits)
    (unnested : Unnested root known)
    (included : edges ⊆ known)
    (numbered : NumberedFrom supply root) :
    EndsHold root known
      (fun members => ∀ member ∈ members,
        ∃ original, EndMember root known original ∧
          Resembles fits original member.info)
      (flowAlong root supply edges).root :=
  endsHold_flowAlong
    (passedOn_of_portable (portable_resembles root known fitting))
    unnested numbered included fun path found ends leads member isMember =>
      ⟨member, ⟨path, found, ends, leads, isMember⟩, rfl, rfl, fun _ => Iff.rfl⟩

/-- What fits by name fits what resembles the members that it was said of. -/
theorem FitsByName.of_resembles
    {fits : Info → String → Prop}
    (byName : FitsByName fits root known)
    {own member : Info}
    (ownResembles : ∃ original, EndMember root known original ∧
      Resembles fits original own)
    (memberResembles : ∃ original, EndMember root known original ∧
      Resembles fits original member)
    (sameName : own.name = member.name)
    (undocumented : own.hasSummary = false)
    {title : String}
    (fitsOwn : fits own title) :
    fits member title := by
  obtain ⟨ownOriginal, ownIsEnd, ownResembles⟩ := ownResembles
  obtain ⟨original, isEnd, resembles⟩ := memberResembles
  refine (resembles.fits_iff title).mpr ?_
  refine byName ownOriginal original ownIsEnd isEnd ?_
    (ownResembles.hasSummary_eq.symm.trans undocumented) title
    ((ownResembles.fits_iff title).mp fitsOwn)
  exact ownResembles.name_eq.symm.trans (sameName.trans resembles.name_eq)

/-- Among members of different names the one of a name is found. -/
theorem find?_name_eq_of_differentNames
    {members : List Declaration}
    (different : DifferentNames members)
    {member : Declaration}
    (isMember : member ∈ members) :
    members.find? (·.name == member.name) = some member := by
  induction members with
  | nil =>
      cases isMember
  | cons first rest inductionHypothesis =>
      obtain ⟨notInRest, restDifferent⟩ := List.nodup_cons.mp different
      rcases List.mem_cons.mp isMember with rfl | inRest
      · simp
      · have other : first.name ≠ member.name :=
          fun same => notInRest (same ▸ List.mem_map_of_mem inRest)
        rw [List.find?_cons_of_neg (by simpa using other)]
        exact inductionHypothesis restDifferent inRest

/--
Along edges between classes that stand apart members can be received, if members of
a class have different names and undocumented ones fit where others do.
-/
theorem receivableAlong_of_unnested
    {fits : Info → String → Prop}
    (fitting : Fitting fits)
    (unnested : Unnested root known)
    (included : edges ⊆ known)
    (numbered : NumberedFrom supply root)
    (nothingInherited : root.Everywhere fun info => info.inheritedFrom = none)
    (different : EndsHold root known DifferentNames root)
    (byName : FitsByName fits root known) :
    ReceivableAlong fits root supply edges := by
  intro earlier edge isPrefix ancestorPath descendantPath ancestor descendant meets
  have isKnown : edge ∈ known := included (isPrefix.subset (by simp))
  have earlierKnown : earlier ⊆ known :=
    List.Subset.trans (List.subset_append_left _ _)
      (List.Subset.trans isPrefix.subset included)
  have ancestorEnds : EndsAt root known ancestorPath :=
    ⟨edge, isKnown, .inl meets.ancestor_path⟩
  have descendantEnds : EndsAt root known descendantPath :=
    ⟨edge, isKnown, .inr meets.descendant_path⟩
  have attested := attested_flowAlong (.of_own numbered nothingInherited) earlier
  have resembling := endsHold_resembles fitting unnested earlierKnown numbered
  have ancestorResembles :=
    resembling ancestorPath ancestor ancestorEnds meets.ancestor_found
  refine ⟨?_, ?_, ?_⟩
  · intro member isMember info isInfo origin isOrigin
    have isOwn := endsHold_flowAlong passedOn_ownsBelow unnested numbered
      earlierKnown (endsHold_ownsBelow nothingInherited) ancestorPath ancestor
      ancestorEnds meets.ancestor_found member isMember info isInfo
    rw [Info.origin?, isOwn] at isOrigin
    cases isOrigin
  · intro member isMember origin isChild isOrigin
    have stillDifferent := endsHold_flowAlong passedOn_differentNames unnested
      numbered earlierKnown different descendantPath descendant descendantEnds
      meets.descendant_found
    have sameName : origin.name = member.name :=
      attested.alike
        _ (Declaration.infos_subset_of_descendant? meets.descendant_found
          (Declaration.info_mem_infos_of_child isChild))
        _ (Declaration.infos_subset_of_descendant? meets.ancestor_found
          (Declaration.info_mem_infos_of_child isMember))
        origin.id (.inl rfl) (Injecting.answers_originNumber? isOrigin)
    rw [← sameName, Declaration.findChild?,
      find?_name_eq_of_differentNames stillDifferent isChild]
    rfl
  · intro member isMember own isOwn sameName undocumented title fitsOwn
    refine byName.of_resembles ?_ (ancestorResembles member isMember) sameName
      undocumented fitsOwn
    rcases List.mem_append.mp isOwn with inDescendant | inAncestor
    · exact resembling descendantPath descendant descendantEnds
        meets.descendant_found own inDescendant
    · exact ancestorResembles own inAncestor

end Hierarchy

end ApiTree.Decl
