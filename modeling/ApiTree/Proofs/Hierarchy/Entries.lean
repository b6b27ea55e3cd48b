import ApiTree.Proofs.Hierarchy.Listing

namespace ApiTree.Decl

/-!
# Looking up what groups list

An entry of a group is looked up among the members of the declaration: it leads to
the first that it stands for.  If no entry stands for two members, and each is
listed once, looking up all entries gives each member once.
-/

namespace Declaration

/-- Everything that the groups of a declaration list. -/
def entries (declaration : Declaration) : List DeclId :=
  declaration.info.groups.flatMap (·.entries)

/-- That looking up all entries gives each member once. -/
def GroupsCoverMembers (declaration : Declaration) : Prop :=
  (declaration.entries.map declaration.findEntry?).Perm
    (declaration.children.map some)

/-- That each member is listed in the group that it belongs to. -/
def GroupsFitMembers (declaration : Declaration) : Prop :=
  ∀ child ∈ declaration.children, ∃ group ∈ declaration.info.groups,
    (∃ entry ∈ group.entries, declaration.findEntry? entry = some child) ∧
      child.info.classify.map (·.title) = some group.title

theorem findEntry?_eq
    (declaration : Declaration)
    (number : DeclId) :
    declaration.findEntry? number =
      declaration.children.find? fun child =>
        decide (child.info.Answers number) := by
  unfold findEntry?
  congr 1
  funext child
  cases inherited : child.info.inheritedFrom <;>
    simp [Info.Answers, inherited, id, Bool.decide_or, beq_eq_decide]

/-- An entry leads to the only member that it stands for. -/
theorem findEntry?_eq_some
    {declaration child : Declaration}
    {number : DeclId}
    (distinct : (declaration.children.map id).Nodup)
    (isChild : child ∈ declaration.children)
    (answers : child.info.Answers number)
    (only : ∀ other ∈ declaration.children, other.info.Answers number →
      other.id = child.id) :
    declaration.findEntry? number = some child := by
  rw [findEntry?_eq]
  cases found : declaration.children.find? fun child =>
      decide (child.info.Answers number) with
  | none =>
      have absent := List.find?_eq_none.mp found child isChild
      exact (absent (decide_eq_true answers)).elim
  | some other =>
      have isOther := List.mem_of_find?_eq_some found
      have otherAnswers : other.info.Answers number := by
        simpa using List.find?_some found
      rw [List.inj_on_of_nodup_map distinct isOther isChild
        (only other isOther otherAnswers)]

/-- The entries are what is listed, without titles. -/
theorem entries_eq_map_listing (declaration : Declaration) :
    declaration.entries = (listing declaration.info.groups).map (·.2) := by
  simp [entries, listing, List.map_flatMap, Function.comp_def]

/-- That entries lead to all members, each once, and titles fit what they lead to. -/
structure ListsMembers
    (fits : Info → String → Prop)
    (declaration : Declaration) :
    Prop where
  covers : declaration.GroupsCoverMembers
  fitting : ∀ entry ∈ listing declaration.info.groups, ∀ child,
    declaration.findEntry? entry.2 = some child → fits child.info entry.1

/-- Entries of groups that cover the members all lead somewhere. -/
theorem GroupsCoverMembers.isSome_findEntry?
    {declaration : Declaration}
    (covers : declaration.GroupsCoverMembers)
    {entry : DeclId}
    (isEntry : entry ∈ declaration.entries) :
    (declaration.findEntry? entry).isSome = true := by
  have isFound := covers.subset (List.mem_map_of_mem isEntry)
  obtain ⟨child, -, found⟩ := List.mem_map.mp isFound
  rw [← found]
  rfl

/-- Each member is listed under a title that fits. -/
theorem ListsMembers.exists_group
    {fits : Info → String → Prop}
    {declaration child : Declaration}
    (lists : declaration.ListsMembers fits)
    (isChild : child ∈ declaration.children) :
    ∃ group ∈ declaration.info.groups,
      (∃ entry ∈ group.entries, declaration.findEntry? entry = some child) ∧
        fits child.info group.title := by
  have isFound := lists.covers.symm.subset (List.mem_map_of_mem isChild)
  obtain ⟨entry, isEntry, found⟩ := List.mem_map.mp isFound
  obtain ⟨group, isGroup, inGroup⟩ := List.mem_flatMap.mp isEntry
  refine ⟨group, isGroup, ⟨entry, inGroup, found⟩, ?_⟩
  exact lists.fitting (group.title, entry)
    (mem_listing_iff.mpr ⟨group, isGroup, rfl, inGroup⟩) child found

/-- Looking up entries does not depend on what else changes in the nodes. -/
theorem findEntry?_mapInfo
    {declaration : Declaration}
    {change : Info → Info}
    (answers : ∀ child ∈ declaration.children, ∀ number,
      (change child.info).Answers number ↔ child.info.Answers number)
    (number : DeclId) :
    findEntry? (declaration.mapInfo change) number =
      (declaration.findEntry? number).map (mapInfo change) := by
  rw [findEntry?_eq, findEntry?_eq, children_mapInfo, List.find?_map]
  refine congrArg _ (List.find?_congr fun child isChild => ?_)
  simp [answers child isChild number]

/-- Members stay listed when nodes change otherwise. -/
theorem ListsMembers.mapInfo
    {fits : Info → String → Prop}
    {declaration : Declaration}
    {change : Info → Info}
    (lists : declaration.ListsMembers fits)
    (groups : (change declaration.info).groups = declaration.info.groups)
    (answers : ∀ child ∈ declaration.children, ∀ number,
      (change child.info).Answers number ↔ child.info.Answers number)
    (keeps : ∀ info title, fits info title → fits (change info) title) :
    (declaration.mapInfo change).ListsMembers fits := by
  have find (entry : DeclId) := findEntry?_mapInfo answers entry
  constructor
  · rw [GroupsCoverMembers, entries, info_mapInfo, groups, children_mapInfo,
      List.map_map]
    have changed := lists.covers.map (Option.map (Declaration.mapInfo change))
    simp only [List.map_map, Function.comp_def, ← find] at changed ⊢
    exact changed
  · rw [info_mapInfo, groups]
    intro entry isListed child found
    rw [find] at found
    obtain ⟨old, wasFound, rfl⟩ := Option.map_eq_some_iff.mp found
    rw [info_mapInfo]
    exact keeps _ _ (lists.fitting entry isListed old wasFound)

end Declaration

/-- In an attested tree groups that present members lead to them. -/
theorem Attested.listsMembers
    {fits : Info → String → Prop}
    {supply : IdSupply}
    {root node : Declaration}
    (attested : Attested supply root)
    (isNode : node ∈ root.nodes)
    (presents : node.Presents (Presented fits))
    (namesakes : node.Presents (OfMembers (Namesakes (· = none)))) :
    node.ListsMembers fits := by
  obtain ⟨⟨listed, isListing, answered⟩, apart⟩ := presents
  have distinct := Declaration.nodup_ids_children
    (attested.numbered.distinct.sublist
      (Declaration.ids_sublist_of_mem_nodes isNode))
  have isInfo {child : Declaration} (isChild : child ∈ node.children) :
      child.info ∈ root.infos :=
    root.ownedInfos_subset_infos
      (Declaration.info_mem_ownedInfos_of_child isNode isChild)
  rw [List.forall₂_map_right_iff] at answered
  have found {entry : String × DeclId} {child : Declaration}
      (isPair : (entry, child) ∈ listed.zip node.children) :
      node.findEntry? entry.2 = some child ∧ fits child.info entry.1 := by
    obtain ⟨answers, fitting⟩ := List.forall₂_zip answered isPair
    have isChild := (List.of_mem_zip isPair).2
    refine ⟨Declaration.findEntry?_eq_some distinct isChild answers ?_, fitting⟩
    intro other isOther otherAnswers
    exact id_eq_of_answers apart namesakes (List.mem_map_of_mem isOther)
      (List.mem_map_of_mem isChild)
      (attested.alike _ (isInfo isOther) _ (isInfo isChild) entry.2 otherAnswers
        answers)
      otherAnswers answers
  have leads : List.Forall₂
      (fun entry child =>
        (∀ other, node.findEntry? entry.2 = some other →
          fits other.info entry.1) ∧ node.findEntry? entry.2 = some child)
      listed node.children := by
    refine List.forall₂_iff_zip.mpr ⟨answered.length_eq, fun isPair => ?_⟩
    obtain ⟨isFound, fitting⟩ := found isPair
    refine ⟨fun other isOther => ?_, isFound⟩
    rw [← Option.some.inj (isFound.symm.trans isOther)]
    exact fitting
  obtain ⟨fitting, inOrder⟩ := (List.forall₂_and_left _ _).mp leads
  constructor
  · have inOrderEq : (listed.map (·.2)).map node.findEntry? =
        node.children.map some := by
      rw [List.map_map, ← List.forall₂_eq_eq_eq, List.forall₂_map_left_iff,
        List.forall₂_map_right_iff]
      exact inOrder
    rw [Declaration.GroupsCoverMembers, Declaration.entries_eq_map_listing,
      ← inOrderEq]
    exact (isListing.symm.map _).map _
  · exact fun entry isListed => fitting entry (isListing.symm.subset isListed)

end ApiTree.Decl
