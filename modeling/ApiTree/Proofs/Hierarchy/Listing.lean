import ApiTree.Proofs.Decl.GroupOrder
import ApiTree.Proofs.Hierarchy.Grounded
import ApiTree.Proofs.Hierarchy.Heritable
import ApiTree.Proofs.Hierarchy.Origins

namespace ApiTree.Decl

/-!
# What groups list

Groups list members by number, each in the group of a title.  If they list every
member once, and no number stands for two members, looking the entries up gives
every member once.  The order of groups and entries does not matter, so only
entering a member, moving an entry and renaming numbers have to be looked at.
-/

/-- What groups list: every entry with the title of its group. -/
def listing (groups : List Group) : List (String × DeclId) :=
  groups.flatMap fun group => group.entries.map fun entry => (group.title, entry)

theorem mem_listing_iff
    {groups : List Group}
    {title : String}
    {number : DeclId} :
    (title, number) ∈ listing groups ↔
      ∃ group ∈ groups, group.title = title ∧ number ∈ group.entries := by
  simp [listing, and_comm]

/-- Entering a declaration into a group lists it once more. -/
theorem listing_enter
    (title : String)
    (number : DeclId)
    (groups : List Group) :
    (listing (Info.addToGroup.enter title number groups)).Perm
      (listing groups ++ [(title, number)]) := by
  induction groups with
  | nil =>
      exact .refl _
  | cons first rest inductionHypothesis =>
      unfold Info.addToGroup.enter
      split
      · rename_i sameTitle
        simp only [listing, List.flatMap_cons, List.map_append, List.map_cons,
          List.map_nil, sameTitle, List.append_assoc]
        exact List.perm_append_comm.append_left _
      · simp only [listing, List.flatMap_cons, List.append_assoc]
        exact inductionHypothesis.append_left _

/-- Changing all entries changes what is listed entry by entry. -/
theorem listing_map_entries
    (change : DeclId → DeclId)
    (groups : List Group) :
    listing (groups.map fun group =>
        { group with entries := group.entries.map change }) =
      (listing groups).map fun entry => (entry.1, change entry.2) := by
  simp only [listing, List.flatMap_map, List.map_flatMap, List.map_map]
  rfl

/-- Ordering the groups of a declaration and their entries lists the same. -/
theorem listing_sortMembers (declaration : Declaration) :
    (listing declaration.sortMembers.info.groups).Perm
      (listing declaration.info.groups) := by
  rw [Declaration.sortMembers, Declaration.info_updateInfo]
  refine ((perm_sortGroups _).flatMap_right _).trans ?_
  rw [listing, List.flatMap_map]
  generalize declaration.info.groups = groups
  induction groups with
  | nil =>
      exact .refl _
  | cons first rest inductionHypothesis =>
      exact ((declaration.perm_sortEntries first.entries).map _).append
        inductionHypothesis

/-! ## Listing members -/

/-- That groups list each of some members once, under titles that fit. -/
def Lists (fits : Info → String → Prop) : Presentation :=
  fun groups infos =>
    ∃ listed, listed.Perm (listing groups) ∧
      List.Forall₂
        (fun entry info => info.Answers entry.2 ∧ fits info entry.1)
        listed infos

/-- A title that fits a member fits its copies, and the title of its group fits. -/
structure Fitting (fits : Info → String → Prop) : Prop where
  portable : ∀ title, Portable fun info => fits info title
  relinkable : ∀ title, Relinkable fun info => fits info title
  classified : ∀ info group, Info.classify info = some group →
    fits info group.title

/-- What fits a copy is what fits the member. -/
theorem Fitting.copied_iff
    {fits : Info → String → Prop}
    (fitting : Fitting fits)
    (info : Info)
    (id : DeclId)
    (groups : List Group)
    (origin : Option Link)
    {title : String} :
    fits { info with id := id, groups := groups, inheritedFrom := origin } title ↔
      fits info title :=
  ⟨fitting.portable title _ info.id info.groups info.inheritedFrom,
    fitting.portable title info id groups origin⟩

variable
    {fits : Info → String → Prop}
    {groups : List Group}

/-- Members and entries may change together. -/
theorem Lists.change
    {before after : List Info}
    {changedGroups : List Group}
    (lists : Lists fits groups before)
    (change : DeclId → DeclId)
    (becomes : Info → Info → Prop)
    (listed : (listing changedGroups).Perm
      ((listing groups).map fun entry => (entry.1, change entry.2)))
    (become : List.Forall₂ becomes before after)
    (keeps : ∀ info changed, becomes info changed →
      (∀ number, info.Answers number → changed.Answers (change number)) ∧
        ∀ title, fits info title → fits changed title) :
    Lists fits changedGroups after := by
  obtain ⟨entries, isListing, answered⟩ := lists
  refine ⟨entries.map fun entry => (entry.1, change entry.2),
    (isListing.map _).trans listed.symm, ?_⟩
  refine List.forall₂_map_left_iff.mpr (forall₂_trans ?_ answered become)
  rintro entry info changed ⟨answers, fitting⟩ isChange
  obtain ⟨answersToo, fitsToo⟩ := keeps info changed isChange
  exact ⟨answersToo entry.2 answers, fitsToo entry.1 fitting⟩

/-- A member is entered by a number that stands for it. -/
theorem Lists.enter
    {infos : List Info}
    {member : Info}
    {title : String}
    {number : DeclId}
    (lists : Lists fits groups infos)
    (answers : member.Answers number)
    (fitting : fits member title) :
    Lists fits (Info.addToGroup.enter title number groups)
      (infos ++ [member]) := by
  obtain ⟨entries, isListing, answered⟩ := lists
  refine ⟨entries ++ [(title, number)],
    (isListing.append_right _).trans (listing_enter title number groups).symm, ?_⟩
  exact List.rel_append answered (.cons ⟨answers, fitting⟩ .nil)

theorem steady_lists (fitting : Fitting fits) : Steady (Lists fits) := by
  intro groups before after relinked lists
  refine lists.change (fun number => number) Relinked (by simp) relinked ?_
  intro info changed isRelinked
  exact
    ⟨fun number answers => isRelinked.answers_iff.mpr answers,
      fun title => fitting.relinkable title _ _ isRelinked⟩

theorem sortable_lists (fits : Info → String → Prop) : Sortable (Lists fits) := by
  rintro declaration members ⟨entries, isListing, answered⟩
  exact ⟨entries, isListing.trans (listing_sortMembers declaration).symm, answered⟩

/-! ## Members beside each other -/

/-- The number of the declaration that a member was inherited from. -/
def Info.origin? (info : Info) : Option DeclId :=
  info.inheritedFrom.bind (·.target)

/-- That no member was inherited from another one beside it. -/
def SiblingsApart (infos : List Info) : Prop :=
  ∀ one ∈ infos, ∀ other ∈ infos,
    one.origin? = some other.id → one.id = other.id

/-- That groups list each member once, and members do not come from each other. -/
def Presented (fits : Info → String → Prop) : Presentation :=
  fun groups infos => Lists fits groups infos ∧ SiblingsApart infos

theorem steady_presented (fitting : Fitting fits) : Steady (Presented fits) := by
  rintro groups before after relinked ⟨lists, apart⟩
  refine ⟨steady_lists fitting groups before after relinked lists, ?_⟩
  -- Links do not change what a member is known by or was inherited from.
  have same : after.map (fun info => (info.id, info.origin?)) =
      before.map fun info => (info.id, info.origin?) := by
    clear lists apart
    induction relinked with
    | nil => rfl
    | cons firstRelinked _ inductionHypothesis =>
        rw [List.map_cons, List.map_cons, inductionHypothesis, Info.origin?,
          firstRelinked.id_eq, firstRelinked.inheritedFrom_eq]
        rfl
  have wasBefore {info : Info} (isInfo : info ∈ after) :
      ∃ old ∈ before, old.id = info.id ∧ old.origin? = info.origin? := by
    have isPair := List.mem_map_of_mem (f := fun info => (info.id, info.origin?))
      isInfo
    rw [same] at isPair
    obtain ⟨old, isOld, samePair⟩ := List.mem_map.mp isPair
    exact ⟨old, isOld, congrArg Prod.fst samePair, congrArg Prod.snd samePair⟩
  intro one isOne other isOther comesFrom
  obtain ⟨first, isFirst, firstId, firstOrigin⟩ := wasBefore isOne
  obtain ⟨second, isSecond, secondId, -⟩ := wasBefore isOther
  rw [← firstId, ← secondId]
  refine apart first isFirst second isSecond ?_
  rw [firstOrigin, secondId]
  exact comesFrom

theorem sortable_presented (fits : Info → String → Prop) :
    Sortable (Presented fits) := by
  rintro declaration members ⟨lists, apart⟩
  exact ⟨sortable_lists fits declaration members lists, apart⟩

/-- No two members of one name were inherited. -/
theorem Namesakes.id_eq_of_inherited
    {infos : List Info}
    (namesakes : Namesakes (· = none) infos)
    {one other : Info}
    (isOne : one ∈ infos)
    (isOther : other ∈ infos)
    (sameName : one.name = other.name)
    (oneInherited : one.inheritedFrom ≠ none)
    (otherInherited : other.inheritedFrom ≠ none) :
    one.id = other.id := by
  have laterOwn : infos.Pairwise fun first second =>
      first.name = second.name → second.inheritedFrom = none :=
    List.pairwise_map.mp namesakes
  clear namesakes
  induction infos with
  | nil =>
      cases isOne
  | cons first rest inductionHypothesis =>
      obtain ⟨ofFirst, inRest⟩ := List.pairwise_cons.mp laterOwn
      rcases List.mem_cons.mp isOne with rfl | oneInRest
      · rcases List.mem_cons.mp isOther with rfl | otherInRest
        · rfl
        · exact (otherInherited (ofFirst other otherInRest sameName)).elim
      · rcases List.mem_cons.mp isOther with rfl | otherInRest
        · exact (oneInherited (ofFirst one oneInRest sameName.symm)).elim
        · exact inductionHypothesis oneInRest otherInRest inRest

/-- Two members of one name that a number stands for are the same one. -/
theorem id_eq_of_answers
    {infos : List Info}
    (apart : SiblingsApart infos)
    (namesakes : Namesakes (· = none) infos)
    {one other : Info}
    (isOne : one ∈ infos)
    (isOther : other ∈ infos)
    (sameName : one.name = other.name)
    {number : DeclId}
    (oneAnswers : one.Answers number)
    (otherAnswers : other.Answers number) :
    one.id = other.id := by
  rcases oneAnswers with isOneId | isOneOrigin
  · rcases otherAnswers with isOtherId | isOtherOrigin
    · exact isOneId.trans isOtherId.symm
    · refine (apart other isOther one isOne ?_).symm
      rw [isOneId]
      exact isOtherOrigin
  · rcases otherAnswers with isOtherId | isOtherOrigin
    · refine apart one isOne other isOther ?_
      rw [isOtherId]
      exact isOneOrigin
    · refine namesakes.id_eq_of_inherited isOne isOther sameName ?_ ?_
      · intro own
        rw [own] at isOneOrigin
        cases isOneOrigin
      · intro own
        rw [own] at isOtherOrigin
        cases isOtherOrigin

/-- A new member is listed under its origin. -/
theorem Presented.append
    {infos : List Info}
    {copy : Info}
    {title : String}
    {origin : DeclId}
    (presented : Presented fits groups infos)
    (isOrigin : copy.origin? = some origin)
    (fitting : fits copy title)
    (isNew : ∀ one ∈ infos, one.origin? ≠ some copy.id)
    (isOutside : ∀ other ∈ infos, other.id ≠ origin) :
    Presented fits (Info.addToGroup.enter title origin groups)
      (infos ++ [copy]) := by
  obtain ⟨lists, apart⟩ := presented
  refine ⟨lists.enter (.inr isOrigin) fitting, ?_⟩
  intro one isOne other isOther comesFrom
  rcases List.mem_append.mp isOne with inOld | isCopy
  · rcases List.mem_append.mp isOther with otherOld | otherCopy
    · exact apart one inOld other otherOld comesFrom
    · obtain rfl := List.mem_singleton.mp otherCopy
      exact (isNew one inOld comesFrom).elim
  · obtain rfl := List.mem_singleton.mp isCopy
    rcases List.mem_append.mp isOther with otherOld | otherCopy
    · exact (isOutside other otherOld
        (Option.some.inj (comesFrom.symm.trans isOrigin))).elim
    · rw [List.mem_singleton.mp otherCopy]

/-- An entry after a member was filled in: that of the earlier origin has moved. -/
def movedEntry
    (previous : Option DeclId)
    (origin entry : DeclId) :
    DeclId :=
  if previous = some entry then origin else entry

theorem mem_of_beside
    {α : Type}
    {front back : List α}
    {own other : α}
    (isBeside : other ∈ front ++ back) :
    other ∈ front ++ own :: back :=
  ((List.sublist_cons_self own back).append_left front).subset isBeside

section

variable
    {front back : List Info}
    {own copy : Info}
    {origin : DeclId}

/-- What fills in a member is listed where that was, under the new origin. -/
theorem Lists.fill
    {moved : List Group}
    (lists : Lists fits groups (front ++ own :: back))
    (listed : (listing moved).Perm
      ((listing groups).map fun entry =>
        (entry.1, movedEntry own.origin? origin entry.2)))
    (sameId : copy.id = own.id)
    (isOrigin : copy.origin? = some origin)
    (fitting : ∀ title, fits own title → fits copy title)
    (alone : ∀ one ∈ front ++ back, ∀ number,
      own.origin? = some number → ¬ one.Answers number) :
    Lists fits moved (front ++ copy :: back) := by
  refine lists.change (movedEntry own.origin? origin)
    (fun before after =>
      (before ∈ front ++ back ∧ after = before) ∨
        (before = own ∧ after = copy)) listed ?_ ?_
  · refine List.rel_append (List.forall₂_same.mpr fun one isOne => ?_)
      (.cons (.inr ⟨rfl, rfl⟩) (List.forall₂_same.mpr fun one isOne => ?_))
    · exact .inl ⟨List.mem_append_left _ isOne, rfl⟩
    · exact .inl ⟨List.mem_append_right _ isOne, rfl⟩
  · rintro before after (⟨isBeside, rfl⟩ | ⟨rfl, rfl⟩)
    · refine ⟨fun number answers => ?_, fun _ => id⟩
      rw [movedEntry, if_neg fun previous =>
        alone after isBeside number previous answers]
      exact answers
    · refine ⟨fun number answers => ?_, fitting⟩
      unfold movedEntry
      split
      · exact .inr isOrigin
      · rename_i notPrevious
        exact .inl (sameId.trans (answers.resolve_right notPrevious))

/-- What fills in a member may come from that member, but from none beside it. -/
theorem SiblingsApart.fill
    (apart : SiblingsApart (front ++ own :: back))
    (sameId : copy.id = own.id)
    (isOrigin : copy.origin? = some origin)
    (isOutside : ∀ other ∈ front ++ back, other.id = origin →
      own.id = other.id) :
    SiblingsApart (front ++ copy :: back) := by
  have copyOrBeside {one : Info} (isOne : one ∈ front ++ copy :: back) :
      one = copy ∨ one ∈ front ++ back := by
    simpa [or_left_comm] using isOne
  intro one isOne other isOther comesFrom
  rcases copyOrBeside isOne with rfl | oneBeside
  · rcases copyOrBeside isOther with rfl | otherBeside
    · rfl
    · rw [sameId]
      exact isOutside other otherBeside
        (Option.some.inj (comesFrom.symm.trans isOrigin))
  · rcases copyOrBeside isOther with rfl | otherBeside
    · rw [sameId] at comesFrom ⊢
      exact apart one (mem_of_beside oneBeside) own (by simp) comesFrom
    · exact apart one (mem_of_beside oneBeside) other (mem_of_beside otherBeside)
        comesFrom

/-- What fills in a member is presented in its place. -/
theorem Presented.fill
    {moved : List Group}
    (presented : Presented fits groups (front ++ own :: back))
    (listed : (listing moved).Perm
      ((listing groups).map fun entry =>
        (entry.1, movedEntry own.origin? origin entry.2)))
    (sameId : copy.id = own.id)
    (isOrigin : copy.origin? = some origin)
    (fitting : ∀ title, fits own title → fits copy title)
    (alone : ∀ one ∈ front ++ back, ∀ number,
      own.origin? = some number → ¬ one.Answers number)
    (isOutside : ∀ other ∈ front ++ back, other.id = origin →
      own.id = other.id) :
    Presented fits moved (front ++ copy :: back) :=
  ⟨presented.1.fill listed sameId isOrigin fitting alone,
    presented.2.fill sameId isOrigin isOutside⟩

end

end ApiTree.Decl
