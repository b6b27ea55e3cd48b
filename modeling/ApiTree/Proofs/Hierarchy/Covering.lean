import ApiTree.Proofs.Hierarchy.Listing

namespace ApiTree.Decl

/-!
# Listing what is inherited

A class lists an inherited member under the number of its origin, which a copy
keeps when numbers change.  That goes well along an edge unless something inherited
and its origin are copied together, or a member comes back to a class that has
another one of its name.  If no edge of a run is like that, all groups below the
top list each member once at its end if they did so before.
-/

/-- That a class can receive members without losing what its groups list. -/
structure Receivable
    (fits : Info → String → Prop)
    (ancestor descendant : Declaration) :
    Prop where
  /-- What a member owns was not inherited from the member or from what it owns. -/
  outside : ∀ member ∈ ancestor.children, ∀ info ∈ member.ownedInfos,
    ∀ origin, info.origin? = some origin → origin ∉ member.ids
  /-- A member that comes back to its origin finds it there. -/
  back : ∀ member ∈ ancestor.children, ∀ origin ∈ descendant.children,
    Injecting.originNumber? member = some origin.id →
      (descendant.findChild? member.name).map Declaration.id = some origin.id
  /-- What is filled in belongs where the member was listed. -/
  fitting : ∀ member ∈ ancestor.children,
    ∀ own ∈ descendant.children ++ ancestor.children,
      own.name = member.name → own.info.hasSummary = false →
        ∀ title, fits own.info title → fits member.info title

/-- The number and the name of a member. -/
def Declaration.face (declaration : Declaration) : DeclId × String :=
  (declaration.id, declaration.name)

theorem Declaration.map_id_findChild?
    (declaration : Declaration)
    (name : String) :
    (declaration.findChild? name).map Declaration.id =
      ((declaration.children.map face).find? (·.2 == name)).map (·.1) := by
  rw [findChild?, List.find?_map, Option.map_map]
  rfl

/-! ## Copies -/

namespace Injecting

variable
    {fits : Info → String → Prop}
    {member : Declaration}

/--
Under new numbers groups list the same members, if nothing was inherited from what
got a new number.
-/
theorem presentsThroughout_renamed
    (fitting : Fitting fits)
    {supply rest : IdSupply}
    {old new : List DeclId}
    {numbers : Renumbering}
    (numbering : Declaration.NumbersNext supply rest old new numbers)
    (distinct : old.Nodup)
    (included : old ⊆ member.ids)
    (owned : member.ownedIds ⊆ old)
    (outside : ∀ info ∈ member.ownedInfos, ∀ origin,
      info.origin? = some origin → origin ∉ member.ids)
    (taken : ∀ info ∈ member.ownedInfos, ∀ number, info.Answers number →
      number < supply.next)
    (presents : member.PresentsThroughout (Presented fits)) :
    (member.rename numbers.apply).PresentsThroughout (Presented fits) := by
  refine Declaration.presentsThroughout_mapInfo_iff.mpr fun node isNode => ?_
  have isBelow {info : Info} (isInfo : info ∈ node.children.map Declaration.info) :
      info ∈ member.ownedInfos := by
    obtain ⟨child, isChild, rfl⟩ := List.mem_map.mp isInfo
    exact Declaration.info_mem_ownedInfos_of_child isNode isChild
  have keeps {info : Info} (isInfo : info ∈ node.children.map Declaration.info)
      {origin : DeclId} (isOrigin : info.origin? = some origin) :
      numbers.apply origin = origin :=
    numbering.pairs.apply_of_not_mem fun isOld =>
      outside info (isBelow isInfo) origin isOrigin (included isOld)
  obtain ⟨lists, -⟩ := presents node isNode
  constructor
  · refine lists.change numbers.apply
      (fun before after =>
        before ∈ node.children.map Declaration.info ∧
          after = Declaration.renameInfo numbers.apply before)
      (by rw [Declaration.renameInfo, listing_map_entries]) ?_ ?_
    · refine List.forall₂_map_right_iff.mpr (List.forall₂_same.mpr ?_)
      exact fun info isInfo => ⟨isInfo, rfl⟩
    · rintro info changed ⟨isInfo, rfl⟩
      refine ⟨fun number answers => ?_, fun title => ?_⟩
      · rcases answers with rfl | isOrigin
        · exact .inl rfl
        · rw [keeps isInfo isOrigin]
          exact .inr isOrigin
      · exact fitting.portable title info (numbers.apply info.id) _
          info.inheritedFrom
  · -- Members have new numbers, and origins have old ones.
    intro one isOne other isOther comesFrom
    obtain ⟨first, isFirst, rfl⟩ := List.mem_map.mp isOne
    obtain ⟨second, isSecond, rfl⟩ := List.mem_map.mp isOther
    have below := taken first (isBelow isFirst) _ (.inr comesFrom)
    have isOld : second.id ∈ old := by
      refine owned ?_
      rw [Declaration.ownedIds_eq_map_ownedInfos]
      exact List.mem_map_of_mem (isBelow isSecond)
    exact (Nat.not_lt_of_le (numbering.le_apply distinct isOld) below).elim

/-! ## Groups -/

variable
    {ancestorName : String}
    {before after : Injecting}
    {number : DeclId}

/-- A member that the class does not have is appended. -/
theorem inject_of_absent
    (running : before.failure = none)
    (absent : memberPosition? member.name before.target.children = none) :
    inject ancestorName before member = append ancestorName before member := by
  simp [inject, running, absent]

/-- A member that the class has without a summary is filled in. -/
theorem inject_of_undocumented
    {position : Nat}
    {own : Declaration}
    (running : before.failure = none)
    (first : memberPosition? member.name before.target.children = some position)
    (found : before.target.children[position]? = some own)
    (undocumented : own.info.hasSummary = false) :
    inject ancestorName before member =
      fill ancestorName before position own member := by
  simp [inject, running, first, found, undocumented]

/-- A copy is entered into its group under the number of its origin. -/
theorem groups_append
    {group : Assignment}
    (grouped : member.info.classify = some group)
    (isOrigin : originNumber? member = some number) :
    (append ancestorName before member).target.info.groups =
      Info.addToGroup.enter group.title number before.target.info.groups := by
  rw [append_eq grouped, Declaration.info_addChild, Declaration.info_updateInfo,
    listOrigin, target_originOf, isOrigin]
  rfl

/-- What was listed under the earlier origin is listed under the new one. -/
theorem listing_fill
    {position : Nat}
    {own : Declaration}
    (isOrigin : originNumber? member = some number) :
    listing (fill ancestorName before position own member).target.info.groups =
      (listing before.target.info.groups).map fun entry =>
        (entry.1, movedEntry own.info.origin? number entry.2) := by
  rw [fill_eq, Declaration.info_updateInfo, Declaration.info_setChildren,
    relistOrigin, target_originOf, isOrigin]
  cases previous : own.info.inheritedFrom.bind (·.target) with
  | none =>
      simp [movedEntry, Info.origin?, previous]
  | some earlier =>
      refine (listing_map_entries _ _).trans ?_
      simp [movedEntry, Info.origin?, previous, eq_comm]

/-- What fills in a member has its number and name. -/
theorem map_face_set_fillingOf
    {supply : IdSupply}
    {children : List Declaration}
    {position : Nat}
    {own : Declaration}
    (first : memberPosition? member.name children = some position)
    (found : children[position]? = some own) :
    (children.set position
        (fillingOf ancestorName supply own member)).map Declaration.face =
      children.map Declaration.face := by
  obtain ⟨sameName, front, back, shape, -, setShape⟩ :=
    exists_around_memberPosition? first found
  have sameFace :
      (fillingOf ancestorName supply own member).face = own.face := by
    rw [Declaration.face, id_fillingOf, name_fillingOf, ← sameName]
    rfl
  rw [setShape, shape, List.map_append, List.map_cons, sameFace,
    List.map_append, List.map_cons]

/-! ## One member -/

/-- What can be said of a class that offers its members to another. -/
structure Offers
    (fits : Info → String → Prop)
    (supply : IdSupply)
    (root ancestor descendant : Declaration) :
    Prop where
  attested : Attested supply root
  fitting : Fitting fits
  receivable : Receivable fits ancestor descendant
  drawn : ∀ member ∈ ancestor.children, Drawn root.infos member
  namesakes : ancestor.PresentsThroughout (OfMembers (Namesakes (· = none)))
  presents : ancestor.PresentsThroughout (Presented fits)

/-- What can be said of a class that has received some of the members. -/
structure Receives
    (fits : Info → String → Prop)
    (supply : IdSupply)
    (root ancestor descendant : Declaration)
    (injecting : Injecting) :
    Prop where
  next_le : supply.next ≤ injecting.supply.next
  numbered : NumberedFrom injecting.supply injecting.target
  traced : injecting.target.Everywhere (Traced root.infos supply.next)
  namesakes : injecting.target.PresentsThroughout
    (OfMembers (Namesakes (· = none)))
  presents : injecting.target.PresentsThroughout (Presented fits)
  /-- Members keep numbers and names, and all others have later numbers. -/
  faces : ∃ entered,
    injecting.target.children.map Declaration.face =
        descendant.children.map Declaration.face ++ entered ∧
      ∀ face ∈ entered, supply.next ≤ face.1
  /-- What is filled in belongs where the member was listed. -/
  fitting : ∀ own ∈ injecting.target.children, ∀ member ∈ ancestor.children,
    own.name = member.name → own.info.hasSummary = false →
      ∀ title, fits own.info title → fits member.info title

namespace Receives

variable
    {supply : IdSupply}
    {root ancestor descendant own : Declaration}

/-- Numbers that stand for nodes of the class were taken before. -/
theorem answers_lt
    (receives : Receives fits supply root ancestor descendant before)
    (attested : Attested supply root)
    {info : Info}
    (isInfo : info ∈ before.target.infos)
    (answers : info.Answers number) :
    number < before.supply.next := by
  rcases (receives.traced info isInfo).answers number answers with
      ⟨rfl, -⟩ | ⟨old, isOld, oldAnswers, -⟩
  · exact receives.numbered.below _ (Declaration.id_mem_ids_of_info isInfo)
  · exact Nat.lt_of_lt_of_le (attested.taken old isOld number oldAnswers)
      receives.next_le

/-- A member of the class has the name of what it shares a number with. -/
theorem name_eq_of_origin
    (receives : Receives fits supply root ancestor descendant before)
    (offers : Offers fits supply root ancestor descendant)
    (isMember : member ∈ ancestor.children)
    (isOrigin : originNumber? member = some number)
    {child : Declaration}
    (isChild : child ∈ before.target.children)
    (answers : child.info.Answers number) :
    child.name = member.name :=
  (offers.attested.name_eq
    ((offers.drawn member isMember).included member.info_mem_infos)
    (receives.traced _ (Declaration.info_mem_infos_of_child isChild))
    (answers_originNumber? isOrigin) answers).symm

/-- The members of a renamed member are listed as they were. -/
theorem renamed
    (receives : Receives fits supply root ancestor descendant before)
    (offers : Offers fits supply root ancestor descendant)
    (isMember : member ∈ ancestor.children)
    {rest : IdSupply}
    {old new : List DeclId}
    {numbers : Renumbering}
    (numbering :
      Declaration.NumbersNext before.supply rest old new numbers)
    (distinct : old.Nodup)
    (included : old ⊆ member.ids)
    (owned : member.ownedIds ⊆ old) :
    (member.rename numbers.apply).PresentsThroughout (Presented fits) := by
  refine presentsThroughout_renamed offers.fitting numbering distinct included
    owned (offers.receivable.outside member isMember) ?_
    (offers.presents.below.child isMember)
  intro info isInfo number answers
  refine Nat.lt_of_lt_of_le (offers.attested.taken info ?_ number answers)
    receives.next_le
  exact (offers.drawn member isMember).included
    (member.ownedInfos_subset_infos isInfo)

/-- A copy lists its members as the member that is copied does. -/
theorem presents_copyOf
    (receives : Receives fits supply root ancestor descendant before)
    (offers : Offers fits supply root ancestor descendant)
    (isMember : member ∈ ancestor.children)
    (ancestorName : String) :
    (copyOf ancestorName before.supply member).PresentsThroughout
      (Presented fits) := by
  have distinct := (offers.drawn member isMember).distinct
  exact presentsThroughout_copyOf distinct
    (receives.renamed offers isMember
      (Declaration.numbersNext_assign member before.supply) distinct
      (List.Subset.refl _) member.ownedIds_subset_ids) ancestorName

theorem presents_fillingOf
    (receives : Receives fits supply root ancestor descendant before)
    (offers : Offers fits supply root ancestor descendant)
    (isMember : member ∈ ancestor.children)
    (ancestorName : String)
    (own : Declaration) :
    (fillingOf ancestorName before.supply own member).PresentsThroughout
      (Presented fits) := by
  have distinct := (offers.drawn member isMember).distinct
  refine presentsThroughout_fillingOf distinct ?_ ancestorName
  refine receives.renamed offers isMember
    (Declaration.numbersNext_assignOwned (renamedTo own member) before.supply)
    (nodup_ownedIds_renamedTo distinct own) ?_ ?_
  · rw [ownedIds_renamedTo]
    exact member.ownedIds_subset_ids
  · rw [ownedIds_renamedTo]
    exact List.Subset.refl _

/-- A class with the copy of a member lists it once. -/
theorem presents_append
    (receives : Receives fits supply root ancestor descendant before)
    (offers : Offers fits supply root ancestor descendant)
    (isMember : member ∈ ancestor.children)
    {group : Assignment}
    (absent : memberPosition? member.name before.target.children = none)
    (grouped : member.info.classify = some group)
    (regrouped : Regrouped before.target
      (append ancestorName before member).target)
    (children_eq : (append ancestorName before member).target.children =
      before.target.children ++ [copyOf ancestorName before.supply member]) :
    (append ancestorName before member).target.PresentsThroughout
      (Presented fits) := by
  have drawn := offers.drawn member isMember
  obtain ⟨number, isOrigin⟩ :=
    exists_originNumber? (drawn.targeted _ member.info_mem_infos)
  have otherNames := memberPosition?_eq_none_iff.mp absent
  obtain ⟨id, groups, infoEq⟩ := info_copyOf ancestorName before.supply member
  have atTop := (Declaration.presentsThroughout_iff.mp receives.presents).1
  refine presentsThroughout_of_regrouped regrouped receives.presents ?_ ?_
  · rw [Declaration.Presents, groups_append grouped isOrigin, children_eq,
      List.map_append, List.map_singleton]
    refine Presented.append atTop ?_ ?_ ?_ ?_
    · rw [infoEq]
      exact (target_originOf ancestorName member).trans isOrigin
    · rw [infoEq]
      exact offers.fitting.portable _ member.info id groups _
        (offers.fitting.classified member.info group grouped)
    · -- The number of the copy was not taken before.
      intro one isOne comesFrom
      obtain ⟨child, isChild, rfl⟩ := List.mem_map.mp isOne
      exact Nat.not_le_of_lt
        (receives.answers_lt offers.attested
          (Declaration.info_mem_infos_of_child isChild) (.inr comesFrom))
        (le_id_copyOf ancestorName before.supply member)
    · intro other isOther sameNumber
      obtain ⟨child, isChild, rfl⟩ := List.mem_map.mp isOther
      exact otherNames child isChild
        (receives.name_eq_of_origin offers isMember isOrigin isChild
          (.inl sameNumber))
  · rw [children_eq]
    refine List.forall_mem_append.mpr
      ⟨fun _ => receives.presents.below.child, List.forall_mem_singleton.mpr ?_⟩
    exact receives.presents_copyOf offers isMember ancestorName

/-- The first member of a name keeps its number when members are received. -/
theorem id_eq_of_back
    (receives : Receives fits supply root ancestor descendant before)
    (offers : Offers fits supply root ancestor descendant)
    (isMember : member ∈ ancestor.children)
    (isOrigin : originNumber? member = some number)
    {front back : List Declaration}
    (shape : before.target.children = front ++ own :: back)
    (sameName : own.name = member.name)
    (otherNames : ∀ one ∈ front, one.name ≠ member.name)
    {other : Declaration}
    (isOther : other ∈ before.target.children)
    (otherId : other.id = number) :
    own.id = other.id := by
  have isOld : other.id < supply.next := by
    rw [otherId]
    exact offers.attested.taken _
      ((offers.drawn member isMember).included member.info_mem_infos) number
      (answers_originNumber? isOrigin)
  obtain ⟨entered, faces, later⟩ := receives.faces
  have otherFace : other.face ∈ descendant.children.map Declaration.face := by
    have isFace := List.mem_map_of_mem (f := Declaration.face) isOther
    rw [faces] at isFace
    refine (List.mem_append.mp isFace).resolve_right fun isEntered => ?_
    exact Nat.not_le_of_lt isOld (later _ isEntered)
  obtain ⟨origin, wasChild, sameFace⟩ := List.mem_map.mp otherFace
  have sameId : origin.id = other.id := congrArg Prod.fst sameFace
  have first := offers.receivable.back member isMember origin wasChild
    (by rw [sameId, otherId]; exact isOrigin)
  rw [Declaration.map_id_findChild?, sameId] at first
  obtain ⟨face, isFirst, isId⟩ := Option.map_eq_some_iff.mp first
  -- The first of the name among all members is the first there was.
  have isOwn : (before.target.children.map Declaration.face).find?
      (·.2 == member.name) = some own.face := by
    rw [shape, List.map_append, List.find?_append,
      List.find?_eq_none.mpr (by simpa [Declaration.face] using otherNames)]
    simp [Declaration.face, sameName]
  rw [faces, List.find?_append, isFirst] at isOwn
  rw [← isId, Option.some.inj isOwn]
  rfl

/-- Nothing beside a member is listed under the number of its origin. -/
theorem not_answers_of_beside
    (receives : Receives fits supply root ancestor descendant before)
    (attested : Attested supply root)
    {front back : List Declaration}
    (shape : before.target.children = front ++ own :: back)
    {other : Declaration}
    (isBeside : other ∈ front ++ back)
    (isOrigin : own.info.origin? = some number) :
    ¬ other.info.Answers number := by
  intro answers
  have isOwn : own ∈ before.target.children := by
    rw [shape]
    exact List.mem_append_right _ List.mem_cons_self
  have isOther : other ∈ before.target.children := by
    rw [shape]
    exact mem_of_beside isBeside
  have distinct := receives.numbered.distinct
  have childrenDistinct := Declaration.nodup_ids_children distinct
  rw [Declaration.ids_eq_map_infos] at distinct
  have sameName := attested.name_eq_of_traced
    (receives.traced _ (Declaration.info_mem_infos_of_child isOwn))
    (receives.traced _ (Declaration.info_mem_infos_of_child isOther))
    (fun sameId => congrArg Info.name
      (List.inj_on_of_nodup_map distinct (Declaration.info_mem_infos_of_child isOwn)
        (Declaration.info_mem_infos_of_child isOther) sameId))
    (.inr isOrigin) answers
  have sameId : own.id = other.id :=
    id_eq_of_answers
      (Declaration.presentsThroughout_iff.mp receives.presents).1.2
      (Declaration.presentsThroughout_iff.mp receives.namesakes).1
      (List.mem_map_of_mem isOwn) (List.mem_map_of_mem isOther) sameName
      (.inr isOrigin) answers
  rw [shape, List.map_append, List.map_cons] at childrenDistinct
  refine (List.nodup_cons.mp (List.nodup_middle.mp childrenDistinct)).1 ?_
  rw [sameId, ← List.map_append]
  exact List.mem_map_of_mem isBeside

/-- A class with a member filled in lists it once. -/
theorem presents_fill
    (receives : Receives fits supply root ancestor descendant before)
    (offers : Offers fits supply root ancestor descendant)
    (isMember : member ∈ ancestor.children)
    {position : Nat}
    (first : memberPosition? member.name before.target.children = some position)
    (found : before.target.children[position]? = some own)
    (undocumented : own.info.hasSummary = false)
    (regrouped : Regrouped before.target
      (fill ancestorName before position own member).target)
    (children_eq : (fill ancestorName before position own member).target.children =
      before.target.children.set position
        (fillingOf ancestorName before.supply own member)) :
    (fill ancestorName before position own member).target.PresentsThroughout
      (Presented fits) := by
  have drawn := offers.drawn member isMember
  obtain ⟨number, isOrigin⟩ :=
    exists_originNumber? (drawn.targeted _ member.info_mem_infos)
  obtain ⟨sameName, front, back, shape, otherNames, setShape⟩ :=
    exists_around_memberPosition? first found
  obtain ⟨id, groups, infoEq⟩ :=
    info_fillingOf ancestorName before.supply own member
  have isOwn : own ∈ before.target.children := List.mem_of_getElem? found
  have atTop := (Declaration.presentsThroughout_iff.mp receives.presents).1
  rw [Declaration.Presents, shape, List.map_append, List.map_cons] at atTop
  refine presentsThroughout_of_regrouped regrouped receives.presents ?_ ?_
  · rw [Declaration.Presents, children_eq, setShape, List.map_append,
      List.map_cons]
    refine Presented.fill atTop (.of_eq (listing_fill isOrigin)) ?_ ?_ ?_ ?_ ?_
    · exact id_fillingOf ancestorName before.supply own member
    · rw [infoEq]
      exact (target_originOf ancestorName member).trans isOrigin
    · intro title fitsOwn
      rw [infoEq]
      exact offers.fitting.portable _ member.info id groups _
        (receives.fitting own isOwn member isMember sameName undocumented title
          fitsOwn)
    · intro info isInfo previous isPrevious
      rw [← List.map_append] at isInfo
      obtain ⟨other, isBeside, rfl⟩ := List.mem_map.mp isInfo
      exact receives.not_answers_of_beside offers.attested shape isBeside
        isPrevious
    · intro info isInfo otherId
      rw [← List.map_append] at isInfo
      obtain ⟨other, isBeside, rfl⟩ := List.mem_map.mp isInfo
      exact receives.id_eq_of_back offers isMember isOrigin shape sameName
        otherNames (shape ▸ mem_of_beside isBeside) otherId
  · intro child isChild
    rw [children_eq] at isChild
    rcases List.mem_or_eq_of_mem_set isChild with wasChild | rfl
    · exact receives.presents.below.child wasChild
    · exact receives.presents_fillingOf offers isMember ancestorName own

/-- What fits an earlier member fits what a member is copied to. -/
theorem fitting_of_copy
    (offers : Offers fits supply root ancestor descendant)
    (isMember : member ∈ ancestor.children)
    {copy : Declaration}
    (isCopy : CopiedFrom member.info copy.info) :
    ∀ other ∈ ancestor.children, copy.name = other.name →
      copy.info.hasSummary = false →
        ∀ title, fits copy.info title → fits other.info title := by
  obtain ⟨id, groups, origin, infoEq⟩ := isCopy
  intro other isOther sameName undocumented title fitsCopy
  have copyName : copy.name = member.name := by
    rw [Declaration.name, infoEq]
    rfl
  have copySummary : copy.info.hasSummary = member.info.hasSummary := by
    rw [infoEq]
    rfl
  refine offers.receivable.fitting other isOther member
    (List.mem_append_right _ isMember) (copyName.symm.trans sameName)
    (copySummary.symm.trans undocumented) title ?_
  rw [infoEq] at fitsCopy
  exact (offers.fitting.copied_iff _ _ _ _).mp fitsCopy

/-- Entering one member keeps what can be said of the class. -/
theorem inject
    (receives : Receives fits supply root ancestor descendant before)
    (offers : Offers fits supply root ancestor descendant)
    (isMember : member ∈ ancestor.children) :
    Receives fits supply root ancestor descendant
      (inject ancestor.name before member) := by
  have enters := enters_inject ancestor.name before member
  have drawn := offers.drawn member isMember
  have covers := enters.covers_target
  have nextLe := Nat.le_trans receives.next_le covers.le
  have numbered := receives.numbered.of_covers covers
  have traced := enters.traced drawn receives.next_le receives.traced
  have namesakes := enters.presentsThroughout (heritable_namesakes (· = none)) isMember
    (Declaration.presentsThroughout_iff.mp offers.namesakes).1 drawn.distinct
    (offers.namesakes.below.child isMember) receives.namesakes
  obtain ⟨entered, faces, later⟩ := receives.faces
  cases enters with
  | halted _ same =>
      rw [same]
      exact receives
  | stands _ _ _ _ _ _ same =>
      rw [same]
      exact receives
  | refused _ _ _ same =>
      rw [same]
      exact { receives with }
  | appends group running absent grouped regrouped children_eq =>
      refine ⟨nextLe, numbered, traced, namesakes, ?_, ?_, ?_⟩
      · rw [inject_of_absent running absent] at regrouped children_eq ⊢
        exact receives.presents_append offers isMember absent grouped regrouped
          children_eq
      · refine ⟨entered ++
          [(copyOf ancestor.name before.supply member).face], ?_, ?_⟩
        · rw [children_eq, List.map_append, faces, List.append_assoc,
            List.map_singleton]
        · refine List.forall_mem_append.mpr
            ⟨later, List.forall_mem_singleton.mpr ?_⟩
          exact Nat.le_trans receives.next_le
            (le_id_copyOf ancestor.name before.supply member)
      · rw [children_eq]
        exact List.forall_mem_append.mpr
          ⟨receives.fitting, List.forall_mem_singleton.mpr
            (fitting_of_copy offers isMember (copiedFrom_copyOf _ _ member))⟩
  | fills position own running first found undocumented regrouped children_eq =>
      refine ⟨nextLe, numbered, traced, namesakes, ?_, ?_, ?_⟩
      · rw [inject_of_undocumented running first found undocumented]
          at regrouped children_eq ⊢
        exact receives.presents_fill offers isMember first found undocumented
          regrouped children_eq
      · refine ⟨entered, ?_, later⟩
        rw [children_eq, map_face_set_fillingOf first found, faces]
      · intro child isChild
        rw [children_eq] at isChild
        rcases List.mem_or_eq_of_mem_set isChild with wasChild | rfl
        · exact receives.fitting child wasChild
        · exact fitting_of_copy offers isMember (copiedFrom_fillingOf _ _ own member)

end Receives

end Injecting

/-! ## A run -/

namespace Inheriting

variable
    {fits : Info → String → Prop}
    {paths : List (DeclId × Path)}
    {before after : Inheriting}
    {edge : Edge}
    {ancestorPath descendantPath : Path}
    {ancestor descendant : Declaration}

theorem numberedFrom_opening
    (numbered : NumberedFrom before.supply before.root)
    (meets : Meets paths before.root edge ancestorPath descendantPath
      ancestor descendant) :
    NumberedFrom (opening before edge ancestor descendant).supply
      (opening before edge ancestor descendant).target := by
  have sameIds : (opening before edge ancestor descendant).target.ids =
      descendant.ids :=
    Declaration.ids_updateInfo _ rfl
  constructor
  · rw [sameIds]
    exact Declaration.nodup_ids_of_descendant? numbered.distinct
      meets.descendant_found
  · rw [sameIds]
    exact fun number isNumber => numbered.below number
      (Declaration.ids_subset_of_descendant? meets.descendant_found isNumber)

/-- A class that has received all members lists them. -/
theorem presentsThroughout_receiving
    (attested : Attested before.supply before.root)
    (fitting : Fitting fits)
    (meets : Meets paths before.root edge ancestorPath descendantPath
      ancestor descendant)
    (receivable : Receivable fits ancestor descendant)
    (ancestorNamesakes : ancestor.PresentsThroughout
      (OfMembers (Namesakes (· = none))))
    (descendantNamesakes : descendant.PresentsThroughout
      (OfMembers (Namesakes (· = none))))
    (ancestorPresents : ancestor.PresentsThroughout (Presented fits))
    (descendantPresents : descendant.PresentsThroughout (Presented fits)) :
    (received before edge ancestor descendant).target.PresentsThroughout
      (Presented fits) := by
  have offers : Injecting.Offers fits before.supply before.root ancestor
      descendant :=
    { attested := attested
      fitting := fitting
      receivable := receivable
      drawn := drawn_of_meets attested meets
      namesakes := ancestorNamesakes
      presents := ancestorPresents }
  have opens : Injecting.Receives fits before.supply before.root ancestor
      descendant (opening before edge ancestor descendant) :=
    { next_le := Nat.le_refl _
      numbered := numberedFrom_opening attested.numbered meets
      traced := traced_opening attested meets
      namesakes :=
        (Declaration.presentsThroughout_updateInfo_iff (by rfl)).mpr
          descendantNamesakes
      presents :=
        (Declaration.presentsThroughout_updateInfo_iff (by rfl)).mpr
          descendantPresents
      faces := ⟨[], by rw [children_opening, List.append_nil], by simp⟩
      fitting := by
        rw [children_opening]
        exact fun own isOwn member isMember =>
          receivable.fitting member isMember own
            (List.mem_append_left _ isOwn) }
  exact (List.foldlRecOn ancestor.children (Injecting.inject ancestor.name)
    opens fun injecting receives member isMember =>
      receives.inject offers isMember).presents

/-- An edge that members can be received along keeps what is listed below the top. -/
theorem Flows.presents
    (flows : Flows paths before edge after)
    (fitting : Fitting fits)
    (inner : InnerEnds paths edge)
    (attested : Attested before.supply before.root)
    (namesakes : before.root.PresentsBelow (OfMembers (Namesakes (· = none))))
    (presents : before.root.PresentsBelow (Presented fits))
    (receivable : ∀ ancestorPath descendantPath ancestor descendant,
      Meets paths before.root edge ancestorPath descendantPath
          ancestor descendant →
        Receivable fits ancestor descendant) :
    after.root.PresentsBelow (Presented fits) := by
  refine flows.presentsBelow (steady_presented fitting) (sortable_presented fits)
    inner presents ?_
  intro ancestorPath descendantPath ancestor descendant meets
  obtain ⟨ancestorInner, descendantInner⟩ := meets.inner inner
  exact presentsThroughout_receiving attested fitting meets
    (receivable _ _ _ _ meets)
    (namesakes.descendant? ancestorInner meets.ancestor_found)
    (namesakes.descendant? descendantInner meets.descendant_found)

end Inheriting

namespace Hierarchy

open Inheriting

variable
    {fits : Info → String → Prop}
    {root : Declaration}
    {supply : IdSupply}
    {edges : List Edge}

/-- That along each edge of a run, when its turn comes, members can be received. -/
def ReceivableAlong
    (fits : Info → String → Prop)
    (root : Declaration)
    (supply : IdSupply)
    (edges : List Edge) :
    Prop :=
  ∀ earlier edge, earlier ++ [edge] <+: edges →
    ∀ ancestorPath descendantPath ancestor descendant,
      Meets root.childPaths (flowAlong root supply earlier).root edge
          ancestorPath descendantPath ancestor descendant →
        Receivable fits ancestor descendant

/--
If nothing is inherited at first and members can be received along each edge, a run
keeps what is listed below the top.
-/
theorem presentsBelow_presented
    (fitting : Fitting fits)
    (numbered : NumberedFrom supply root)
    (own : root.Everywhere fun info => info.inheritedFrom = none)
    (namesakes : root.PresentsBelow (OfMembers (Namesakes (· = none))))
    (inner : ∀ edge ∈ edges, InnerEnds root.childPaths edge)
    (receivable : ReceivableAlong fits root supply edges)
    (presents : root.PresentsBelow (Presented fits)) :
    (flowAlong root supply edges).root.PresentsBelow (Presented fits) := by
  induction edges using List.reverseRecOn with
  | nil =>
      exact presents
  | append_singleton earlier edge inductionHypothesis =>
      obtain ⟨earlierInner, edgeInner⟩ := List.forall_mem_append.mp inner
      rw [flowAlong_concat]
      refine (flows_propagate root.childPaths _ edge).presents fitting
        (List.forall_mem_singleton.mp edgeInner)
        (attested_flowAlong (.of_own numbered own) earlier)
        (presentsBelow_flowAlong (heritable_namesakes _) numbered earlierInner
          namesakes) ?_ ?_
      · exact inductionHypothesis earlierInner fun front next isPrefix =>
          receivable front next (isPrefix.trans (List.prefix_append _ _))
      · exact receivable earlier edge (List.prefix_refl _)

end Hierarchy

end ApiTree.Decl
