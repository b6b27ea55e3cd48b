import ApiTree.Proofs.Decl.Numbering
import Mathlib.Data.Set.Function

namespace ApiTree.Decl

/-!
# Numbering under other names

Two runs that take their numbers from different supplies give corresponding nodes
different numbers.  Names lead from the numbers of one run to those of the other.
If the numbers that are still free correspond one after the other, then copying a
renamed declaration gives the renamed copy.
-/

/-- The numbers that information mentions: its own and those that its groups list. -/
def Info.mentions (info : Info) : List DeclId :=
  info.id :: info.groups.flatMap Group.entries

/-- That the free numbers of two supplies correspond, one after the other. -/
def InStep
    (names : DeclId → DeclId)
    (first second : IdSupply) :
    Prop :=
  ∀ offset, names (first.next + offset) = second.next + offset

/-- Taking equally many numbers from both supplies keeps them in step. -/
theorem InStep.skip
    {names : DeclId → DeclId}
    {first second : IdSupply}
    (inStep : InStep names first second)
    (count : Nat) :
    InStep names ⟨first.next + count⟩ ⟨second.next + count⟩ := by
  intro offset
  have skipped := inStep (count + offset)
  rwa [← Nat.add_assoc, ← Nat.add_assoc] at skipped

namespace Declaration

/-- The numbers that are mentioned in a tree. -/
def mentions (declaration : Declaration) : List DeclId :=
  declaration.infos.flatMap Info.mentions

theorem mem_mentions_iff
    {declaration : Declaration}
    {number : DeclId} :
    number ∈ declaration.mentions ↔
      ∃ info ∈ declaration.infos, number ∈ info.mentions :=
  List.mem_flatMap

/-- The numbers of the nodes are mentioned. -/
theorem ids_subset_mentions (declaration : Declaration) :
    declaration.ids ⊆ declaration.mentions := by
  intro number isNumber
  rw [ids_eq_map_infos] at isNumber
  obtain ⟨info, member, rfl⟩ := List.mem_map.mp isNumber
  exact mem_mentions_iff.mpr ⟨info, member, List.mem_cons_self⟩

theorem mentions_subset_of_descendant?
    {declaration found : Declaration}
    {path : Path}
    (leads : declaration.descendant? path = some found) :
    found.mentions ⊆ declaration.mentions := by
  intro number isMentioned
  obtain ⟨info, member, mentioned⟩ := mem_mentions_iff.mp isMentioned
  exact mem_mentions_iff.mpr
    ⟨info, infos_subset_of_descendant? leads member, mentioned⟩

/-- What a declaration mentions apart from its own number. -/
def ownedMentions (declaration : Declaration) : List DeclId :=
  declaration.info.groups.flatMap Group.entries ++
    (declaration.children.flatMap mentions ++
      (declaration.signatures.flatMap mentions ++
        declaration.parameters.flatMap mentions))

theorem mentions_eq_cons_ownedMentions (declaration : Declaration) :
    declaration.mentions = declaration.id :: declaration.ownedMentions := by
  cases declaration
  simp only [mentions, infos_node, List.flatMap_cons, List.flatMap_append,
    List.flatMap_assoc]
  rfl

theorem ownedMentions_subset_mentions (declaration : Declaration) :
    declaration.ownedMentions ⊆ declaration.mentions := by
  rw [mentions_eq_cons_ownedMentions]
  exact List.subset_cons_self _ _

theorem ownedIds_subset_ownedMentions (declaration : Declaration) :
    declaration.ownedIds ⊆ declaration.ownedMentions := by
  have each (declarations : List Declaration) :
      declarations.flatMap ids ⊆ declarations.flatMap mentions := by
    intro number isNumber
    obtain ⟨one, member, inOne⟩ := List.mem_flatMap.mp isNumber
    exact List.mem_flatMap.mpr ⟨one, member, ids_subset_mentions one inOne⟩
  intro number isNumber
  rw [ownedIds_eq] at isNumber
  simp only [ownedMentions, List.mem_append] at isNumber ⊢
  exact .inr (isNumber.imp (fun inChildren => each _ inChildren)
    (.imp (fun inSignatures => each _ inSignatures)
      fun inParameters => each _ inParameters))

/-- What a change of every node does depends on the nodes that are there only. -/
theorem mapInfo_congr
    {first second : Info → Info}
    (declaration : Declaration)
    (same : ∀ info ∈ declaration.infos, first info = second info) :
    declaration.mapInfo first = declaration.mapInfo second := by
  induction declaration using ownedInduction with
  | node info children signatures parameters
      childrenHold signaturesHold parametersHold =>
      simp only [infos_node, List.mem_cons, List.mem_append,
        List.mem_flatMap] at same
      rw [mapInfo_node, mapInfo_node, same info (.inl rfl)]
      congr 1
      · exact List.map_congr_left fun child member =>
          childrenHold child member fun one inChild =>
            same one (.inr (.inl ⟨child, member, inChild⟩))
      · exact List.map_congr_left fun signature member =>
          signaturesHold signature member fun one inSignature =>
            same one (.inr (.inr (.inl ⟨signature, member, inSignature⟩)))
      · exact List.map_congr_left fun parameter member =>
          parametersHold parameter member fun one inParameter =>
            same one (.inr (.inr (.inr ⟨parameter, member, inParameter⟩)))

theorem renameInfo_congr
    {first second : DeclId → DeclId}
    {info : Info}
    (same : ∀ number ∈ info.mentions, first number = second number) :
    renameInfo first info = renameInfo second info := by
  have sameEntries (group : Group) (member : group ∈ info.groups) :
      group.entries.map first = group.entries.map second :=
    List.map_congr_left fun entry isEntry =>
      same entry (List.mem_cons_of_mem _
        (List.mem_flatMap.mpr ⟨group, member, isEntry⟩))
  simp only [renameInfo, same info.id List.mem_cons_self, Info.mk.injEq,
    true_and, and_true]
  refine List.map_congr_left fun group member => ?_
  rw [sameEntries group member]

/-- Names that agree on what is mentioned rename alike. -/
theorem rename_congr
    {first second : DeclId → DeclId}
    {declaration : Declaration}
    (same : ∀ number ∈ declaration.mentions, first number = second number) :
    declaration.rename first = declaration.rename second := by
  refine mapInfo_congr declaration fun info member => renameInfo_congr ?_
  intro number isMentioned
  exact same number (mem_mentions_iff.mpr ⟨info, member, isMentioned⟩)

/-- A declaration's own number does not matter if it is replaced afterwards. -/
theorem rename_congr_of_ownedMentions
    {first second : DeclId → DeclId}
    {declaration : Declaration}
    (same : ∀ number ∈ declaration.ownedMentions,
      first number = second number)
    (own : DeclId) :
    (declaration.rename first).updateInfo (fun info => { info with id := own }) =
      (declaration.rename second).updateInfo
        fun info => { info with id := own } := by
  cases declaration with
  | node info children signatures parameters =>
      simp only [ownedMentions, info_node, children_node, signatures_node,
        parameters_node, List.mem_append, List.mem_flatMap] at same
      have sameGroups (group : Group) (member : group ∈ info.groups) :
          group.entries.map first = group.entries.map second :=
        List.map_congr_left fun entry isEntry =>
          same entry (.inl ⟨group, member, isEntry⟩)
      simp only [rename, mapInfo_node, updateInfo, renameInfo]
      congr 1
      · simp only [Info.mk.injEq, true_and, and_true]
        exact List.map_congr_left fun group member => by
          rw [sameGroups group member]
      · exact List.map_congr_left fun child member =>
          rename_congr fun number inChild =>
            same number (.inr (.inl ⟨child, member, inChild⟩))
      · exact List.map_congr_left fun signature member =>
          rename_congr fun number inSignature =>
            same number (.inr (.inr (.inl ⟨signature, member, inSignature⟩)))
      · exact List.map_congr_left fun parameter member =>
          rename_congr fun number inParameter =>
            same number (.inr (.inr (.inr ⟨parameter, member, inParameter⟩)))

theorem mentions_renameInfo
    (names : DeclId → DeclId)
    (info : Info) :
    (renameInfo names info).mentions = info.mentions.map names := by
  simp [Info.mentions, renameInfo, List.flatMap_map, List.map_flatMap]

theorem mentions_rename
    (names : DeclId → DeclId)
    (declaration : Declaration) :
    (declaration.rename names).mentions = declaration.mentions.map names := by
  simp only [mentions, rename, infos_mapInfo, List.flatMap_map,
    List.map_flatMap, mentions_renameInfo]

theorem ids_rename
    (names : DeclId → DeclId)
    (declaration : Declaration) :
    (declaration.rename names).ids = declaration.ids.map names := by
  simp [ids_eq_map_infos, rename, infos_mapInfo, renameInfo,
    Function.comp_def]

theorem ownedIds_rename
    (names : DeclId → DeclId)
    (declaration : Declaration) :
    (declaration.rename names).ownedIds = declaration.ownedIds.map names := by
  have shape := ids_rename names declaration
  rw [ids_eq_cons_ownedIds, ids_eq_cons_ownedIds declaration,
    List.map_cons] at shape
  exact (List.cons.inj shape).2

@[simp] theorem info_rename
    (names : DeclId → DeclId)
    (declaration : Declaration) :
    (declaration.rename names).info = renameInfo names declaration.info :=
  info_mapInfo _ declaration

@[simp] theorem id_rename
    (names : DeclId → DeclId)
    (declaration : Declaration) :
    (declaration.rename names).id = names declaration.id := by
  rw [id, info_rename]
  rfl

@[simp] theorem name_rename
    (names : DeclId → DeclId)
    (declaration : Declaration) :
    (declaration.rename names).name = declaration.name := by
  rw [name, info_rename]
  rfl

/-! ## Numbers that are given -/

namespace NumbersNext

variable
    {supply rest : IdSupply}
    {old new : List DeclId}
    {numbers : Renumbering}

/-- The numbers are given in the order of the old ones. -/
theorem apply_getElem
    (numbering : NumbersNext supply rest old new numbers)
    (distinct : old.Nodup)
    {position : Nat}
    (inside : position < old.length) :
    numbers.apply old[position] = supply.next + position := by
  have listed : (old[position], supply.next + position) ∈ numbers := by
    rw [numbering.numbers_eq, numbering.new_eq]
    refine List.mem_iff_getElem.mpr ⟨position, by simpa using inside, ?_⟩
    simp
  exact numbering.pairs.apply_eq distinct listed

/-- A number is renamed to itself or to one that was taken. -/
theorem apply_lt
    (numbering : NumbersNext supply rest old new numbers)
    (distinct : old.Nodup)
    {number : DeclId}
    (below : number < supply.next) :
    numbers.apply number < rest.next := by
  have rest_eq := congrArg IdSupply.next numbering.rest_eq
  by_cases numbered : number ∈ old
  · obtain ⟨position, inside, rfl⟩ := List.getElem_of_mem numbered
    rw [numbering.apply_getElem distinct inside, rest_eq]
    exact Nat.add_lt_add_left inside _
  · rw [numbering.pairs.apply_of_not_mem numbered, rest_eq]
    exact Nat.lt_of_lt_of_le below (Nat.le_add_right _ _)

variable
    {otherSupply otherRest : IdSupply}
    {otherNew : List DeclId}
    {otherNumbers : Renumbering}
    {names : DeclId → DeclId}

/-- Numbering renamed numbers renames what numbering them gives. -/
theorem apply_names
    (numbering : NumbersNext supply rest old new numbers)
    (other : NumbersNext otherSupply otherRest (old.map names) otherNew
      otherNumbers)
    (inStep : InStep names supply otherSupply)
    {known : List DeclId}
    (distinct : old.Nodup)
    (included : old ⊆ known)
    (injective : Set.InjOn names {number | number ∈ known})
    {number : DeclId}
    (isKnown : number ∈ known) :
    otherNumbers.apply (names number) = names (numbers.apply number) := by
  by_cases numbered : number ∈ old
  · obtain ⟨position, inside, rfl⟩ := List.getElem_of_mem numbered
    have otherDistinct : (old.map names).Nodup :=
      distinct.map_on fun one isOne another isAnother same =>
        injective (included isOne) (included isAnother) same
    have otherInside : position < (old.map names).length := by
      simpa using inside
    have otherAt := other.apply_getElem otherDistinct otherInside
    rw [List.getElem_map] at otherAt
    rw [otherAt, numbering.apply_getElem distinct inside]
    exact (inStep position).symm
  · have otherAbsent : names number ∉ old.map names := by
      intro listed
      obtain ⟨one, isOne, same⟩ := List.mem_map.mp listed
      exact numbered (injective (included isOne) isKnown same ▸ isOne)
    rw [numbering.pairs.apply_of_not_mem numbered,
      other.pairs.apply_of_not_mem otherAbsent]

/-- As many numbers are taken for renamed numbers. -/
theorem inStep_rest
    (numbering : NumbersNext supply rest old new numbers)
    (other : NumbersNext otherSupply otherRest (old.map names) otherNew
      otherNumbers)
    (inStep : InStep names supply otherSupply) :
    InStep names rest otherRest := by
  rw [numbering.rest_eq, other.rest_eq, List.length_map]
  exact inStep.skip old.length

end NumbersNext

variable
    {names : DeclId → DeclId}
    {declaration : Declaration}
    {first second : IdSupply}

theorem numbersNext_assign_rename
    (names : DeclId → DeclId)
    (declaration : Declaration)
    (supply : IdSupply) :
    NumbersNext supply ((declaration.rename names).assign supply).2.2
      (declaration.ids.map names)
      ((declaration.rename names).assign supply).1.ids
      ((declaration.rename names).assign supply).2.1 := by
  rw [← ids_rename]
  exact numbersNext_assign _ supply

theorem numbersNext_assignOwned_rename
    (names : DeclId → DeclId)
    (declaration : Declaration)
    (supply : IdSupply) :
    NumbersNext supply ((declaration.rename names).assignOwned supply).2.2
      (declaration.ownedIds.map names)
      ((declaration.rename names).assignOwned supply).1.ownedIds
      ((declaration.rename names).assignOwned supply).2.1 := by
  rw [← ownedIds_rename]
  exact numbersNext_assignOwned _ supply

/-- A copy of a renamed declaration is a renamed copy of it. -/
theorem renumber_rename
    (distinct : declaration.ids.Nodup)
    (injective : Set.InjOn names {number | number ∈ declaration.mentions})
    (inStep : InStep names first second) :
    ((declaration.rename names).renumber second).1 =
      (declaration.renumber first).1.rename names := by
  have included := ids_subset_mentions declaration
  have renamedDistinct : (declaration.rename names).ids.Nodup := by
    rw [ids_rename]
    exact distinct.map_on fun one isOne another isAnother same =>
      injective (included isOne) (included isAnother) same
  rw [renumber_eq_rename renamedDistinct, renumber_eq_rename distinct,
    rename_rename, rename_rename]
  exact rename_congr fun number isMentioned =>
    (numbersNext_assign declaration first).apply_names
      (numbersNext_assign_rename names declaration second) inStep distinct
      included injective isMentioned

theorem inStep_renumber
    (names : DeclId → DeclId)
    (declaration : Declaration)
    (inStep : InStep names first second) :
    InStep names (declaration.renumber first).2.2
      ((declaration.rename names).renumber second).2.2 :=
  (numbersNext_assign declaration first).inStep_rest
    (numbersNext_assign_rename names declaration second) inStep

theorem rename_updateInfo_id
    (names : DeclId → DeclId)
    (number : DeclId)
    (declaration : Declaration) :
    (declaration.updateInfo fun info => { info with id := number }).rename
        names =
      (declaration.rename names).updateInfo
        fun info => { info with id := names number } := by
  cases declaration
  simp [rename, updateInfo, mapInfo_node, renameInfo]

/-- What is owned is copied likewise. -/
theorem renumberOwned_rename
    (distinct : declaration.ownedIds.Nodup)
    (injective : Set.InjOn names
      {number | number ∈ declaration.ownedMentions})
    (inStep : InStep names first second) :
    ((declaration.rename names).renumberOwned second).1 =
      (declaration.renumberOwned first).1.rename names := by
  have included := ownedIds_subset_ownedMentions declaration
  have renamedDistinct : (declaration.rename names).ownedIds.Nodup := by
    rw [ownedIds_rename]
    exact distinct.map_on fun one isOne another isAnother same =>
      injective (included isOne) (included isAnother) same
  rw [renumberOwned_eq_rename renamedDistinct,
    renumberOwned_eq_rename distinct, rename_updateInfo_id, id_rename,
    rename_rename, rename_rename]
  exact rename_congr_of_ownedMentions
    (fun number isMentioned =>
      (numbersNext_assignOwned declaration first).apply_names
        (numbersNext_assignOwned_rename names declaration second) inStep
        distinct included injective isMentioned)
    _

theorem inStep_renumberOwned
    (names : DeclId → DeclId)
    (declaration : Declaration)
    (inStep : InStep names first second) :
    InStep names (declaration.renumberOwned first).2.2
      ((declaration.rename names).renumberOwned second).2.2 :=
  (numbersNext_assignOwned declaration first).inStep_rest
    (numbersNext_assignOwned_rename names declaration second) inStep

/-! ## Numbers that copies mention -/

theorem mentions_renumber_lt
    {supply : IdSupply}
    (distinct : declaration.ids.Nodup)
    (below : ∀ number ∈ declaration.mentions, number < supply.next)
    {number : DeclId}
    (isMentioned : number ∈ (declaration.renumber supply).1.mentions) :
    number < (declaration.renumber supply).2.2.next := by
  rw [renumber_eq_rename distinct, mentions_rename] at isMentioned
  obtain ⟨old, wasMentioned, rfl⟩ := List.mem_map.mp isMentioned
  exact (numbersNext_assign declaration supply).apply_lt distinct
    (below old wasMentioned)

theorem mentions_updateInfo
    {change : Info → Info}
    {declaration : Declaration}
    {number : DeclId}
    (isMentioned : number ∈ (declaration.updateInfo change).mentions) :
    number ∈ (change declaration.info).mentions ∨
      number ∈ declaration.mentions := by
  cases declaration with
  | node info children signatures parameters =>
      simp only [updateInfo, mentions, infos_node, List.flatMap_cons,
        List.mem_append] at isMentioned ⊢
      tauto

theorem mentions_renumberOwned_lt
    {supply : IdSupply}
    (distinct : declaration.ownedIds.Nodup)
    (below : ∀ number ∈ declaration.mentions, number < supply.next)
    {number : DeclId}
    (isMentioned : number ∈ (declaration.renumberOwned supply).1.mentions) :
    number < (declaration.renumberOwned supply).2.2.next := by
  have numbering := numbersNext_assignOwned declaration supply
  have renamedBelow {one : DeclId}
      (inRenamed : one ∈
        (declaration.rename
          (declaration.assignOwned supply).2.1.apply).mentions) :
      one < (declaration.renumberOwned supply).2.2.next := by
    rw [mentions_rename] at inRenamed
    obtain ⟨old, wasMentioned, rfl⟩ := List.mem_map.mp inRenamed
    exact numbering.apply_lt distinct (below old wasMentioned)
  rw [renumberOwned_eq_rename distinct] at isMentioned
  rcases mentions_updateInfo isMentioned with atTop | inRenamed
  · rcases List.mem_cons.mp atTop with rfl | isListed
    · have isOwn := below declaration.id
        (ids_subset_mentions declaration declaration.id_mem_ids)
      exact Nat.lt_of_lt_of_le isOwn numbering.covers.le
    · refine renamedBelow (mem_mentions_iff.mpr
        ⟨_, info_mem_infos _, List.mem_cons_of_mem _ isListed⟩)
  · exact renamedBelow inRenamed

end Declaration

end ApiTree.Decl
