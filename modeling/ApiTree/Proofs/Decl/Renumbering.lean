import ApiTree.Proofs.Decl.Symbols
import ApiTree.Proofs.Decl.Words

namespace ApiTree.Decl

/-!
# Renumbering as renaming

Numbering a tree and letting its groups follow are two passes over the tree, and the
second one looks up what the first one has noted.  If no number occurs twice, the two
together rename the tree: all numbers are replaced at once, so it does not matter whether
some new numbers are old ones too, nor whether the new numbers start again at zero.
-/

namespace Renumbering

variable
    {numbers : Renumbering}
    {old new : List DeclId}

theorem Pairs.cut (pairs : numbers.Pairs old new) :
    numbers.cut.Pairs old (new.map (· % UInt32.size)) where
  numbers_eq := by
    rw [Renumbering.cut, pairs.numbers_eq, List.zip_map_right]
    rfl
  length_eq := by rw [List.length_map, pairs.length_eq]

/-- Of distinct old numbers all are renamed to the new ones. -/
theorem Pairs.map_apply_eq
    (pairs : numbers.Pairs old new)
    (distinct : old.Nodup) :
    old.map numbers.apply = new :=
  calc old.map numbers.apply
      = (numbers.map (·.1)).map numbers.apply := by rw [pairs.map_fst_eq]
    _ = numbers.map (·.2) := by
        rw [List.map_map]
        exact List.map_congr_left fun _ isPair => pairs.apply_eq distinct isPair
    _ = new := pairs.map_snd_eq

/-- Numbers that are words already stay as they are. -/
theorem Pairs.cut_eq
    (pairs : numbers.Pairs old new)
    (areWords : ∀ number ∈ new, number < UInt32.size) :
    numbers.cut = numbers := by
  refine (List.map_congr_left fun pair isPair => ?_).trans (List.map_id _)
  have isNew : pair.2 ∈ new := by
    rw [← pairs.map_snd_eq]
    exact List.mem_map_of_mem isPair
  rw [Nat.mod_eq_of_lt (areWords pair.2 isNew), id]

/-- Cutting the new numbers to words cuts the number that a node gets. -/
theorem Pairs.apply_cut
    (pairs : numbers.Pairs old new)
    (distinct : old.Nodup)
    {number : DeclId}
    (isOld : number ∈ old) :
    numbers.cut.apply number = numbers.apply number % UInt32.size := by
  rw [← pairs.map_fst_eq] at isOld
  obtain ⟨pair, isPair, rfl⟩ := List.mem_map.mp isOld
  rw [pairs.apply_eq distinct isPair]
  exact pairs.cut.apply_eq distinct (List.mem_map_of_mem isPair)

end Renumbering

namespace Declaration

/--
That a tree is renamed, and nothing else: some old numbers become new ones, all other
numbers stay, and each old number is reported with the new one.
-/
structure Renumbers
    (old new : List DeclId)
    (before after : Declaration)
    (numbers : Renumbering) :
    Prop where
  numbers_eq : numbers = old.zip new
  renamed : ∀ pair ∈ numbers, numbers.apply pair.1 = pair.2
  kept : ∀ number ∉ old, numbers.apply number = number
  tree_eq : after = before.rename numbers.apply

/-- Distinct numbers that are paired with new ones, and a tree that follows, are a renaming. -/
theorem renumbers_of_pairs
    {old new : List DeclId}
    {before after : Declaration}
    {numbers : Renumbering}
    (pairs : numbers.Pairs old new)
    (distinct : old.Nodup)
    (tree_eq : after = before.rename numbers.apply) :
    Renumbers old new before after numbers where
  numbers_eq := pairs.numbers_eq
  renamed _ isPair := pairs.apply_eq distinct isPair
  kept _ absent := pairs.apply_of_not_mem absent
  tree_eq := tree_eq

/-- The new numbers are those of the renamed tree, where the old ones were. -/
theorem ids_rename_of_pairs
    {keeps old new : List DeclId}
    {before : Declaration}
    {numbers : Renumbering}
    (pairs : numbers.Pairs old new)
    (ids_eq : before.ids = keeps ++ old)
    (distinct : before.ids.Nodup) :
    (before.rename numbers.apply).ids = keeps ++ new := by
  rw [ids_eq, List.nodup_append] at distinct
  obtain ⟨-, oldDistinct, apart⟩ := distinct
  have kept (number : DeclId) (isKept : number ∈ keeps) : numbers.apply number = number :=
    pairs.apply_of_not_mem fun isOld => apart number isKept number isOld rfl
  rw [ids_rename, ids_eq, List.map_append, List.map_congr_left kept, List.map_id',
    pairs.map_apply_eq oldDistinct]

/--
What renumbering gives whose numbers are words: it stops exactly if counting does and the
words run out, and if not, the words that come next take the place of the old numbers,
one after the other; as long as the words last they are the numbers that are counted.
-/
structure RenumbersInWords
    (supply : WordSupply)
    (keeps old : List DeclId)
    (before : Declaration)
    (outcome : Option (Declaration × Renumbering × WordSupply))
    (counted : Declaration × Renumbering × IdSupply) :
    Prop where
  stops_iff : outcome = none ↔
    supply.overflow = .stops ∧ UInt32.size ≤ supply.next.toNat + old.length
  renumbers : ∀ {after numbers rest}, outcome = some (after, numbers, rest) →
    ∃ issued, supply.takeMany? old.length = some (issued, rest) ∧
      issued = (List.range' supply.next.toNat old.length).map .ofNat ∧
      Renumbers old (issued.map UInt32.toNat) before after numbers ∧
      after.ids = keeps ++ issued.map UInt32.toNat
  counts : supply.next.toNat + old.length < UInt32.size →
    outcome = some (counted.1, counted.2.1, counted.2.2.inWords supply.overflow)

variable {declaration : Declaration}

/-- Names that keep the number at the top rename only what is owned. -/
theorem updateInfo_rename_of_kept
    {names : DeclId → DeclId}
    (kept : names declaration.id = declaration.id) :
    ((declaration.rename names).updateInfo
        fun info => { info with id := declaration.id }) =
      declaration.rename names := by
  cases declaration
  simp only [id_node] at kept
  simp only [rename, mapInfo_node, updateInfo, renameInfo, id_node, kept]

/-- Nodes that get cut numbers, and groups that follow them, are a renaming. -/
theorem renameGroups_cut_eq_rename
    {names : DeclId → DeclId}
    {numbers : Renumbering}
    (declaration : Declaration)
    (same : ∀ number ∈ declaration.ids,
      numbers.apply number = names number % UInt32.size) :
    (declaration.mapInfo fun info => { info with id := names info.id }).cut.renameGroups
        numbers =
      declaration.rename numbers.apply := by
  simp only [cut, renameGroups, rename, mapInfo_mapInfo]
  refine mapInfo_congr declaration fun info member => ?_
  have isNumber : info.id ∈ declaration.ids := by
    rw [ids_eq_map_infos]
    exact List.mem_map_of_mem member
  simp only [renameInfo, same info.id isNumber]

/-- Numbering all nodes with words renames the tree. -/
theorem renameGroups_cut_assign
    (distinct : declaration.ids.Nodup)
    (supply : IdSupply) :
    (declaration.assign supply).1.cut.renameGroups (declaration.assign supply).2.1.cut =
      declaration.rename (declaration.assign supply).2.1.cut.apply := by
  have pairs := (numbersNext_assign declaration supply).pairs
  rw [assign_eq_mapInfo declaration supply fun _ isPair => pairs.apply_eq distinct isPair]
  exact renameGroups_cut_eq_rename declaration fun _ isNumber =>
    pairs.apply_cut distinct isNumber

/-- Numbering what is owned with words renames the tree as well. -/
theorem renameGroups_cut_assignOwned
    (distinct : declaration.ids.Nodup)
    (supply : IdSupply) :
    ((declaration.assignOwned supply).1.cut.updateInfo fun info =>
        { info with id := declaration.id }).renameGroups
        (declaration.assignOwned supply).2.1.cut =
      declaration.rename (declaration.assignOwned supply).2.1.cut.apply := by
  rw [ids_eq_cons_ownedIds, List.nodup_cons] at distinct
  obtain ⟨topApart, ownedDistinct⟩ := distinct
  have pairs := (numbersNext_assignOwned declaration supply).pairs
  have numbered := assignOwned_eq_mapInfo declaration supply
    fun _ isPair => pairs.apply_eq ownedDistinct isPair
  have kept := pairs.cut.apply_of_not_mem topApart
  have renamed (number : DeclId) (isNumber : number ∈ declaration.ownedIds) :=
    pairs.apply_cut ownedDistinct isNumber
  rw [numbered]
  generalize (declaration.assignOwned supply).2.1 = numbers at kept renamed ⊢
  cases declaration with
  | node info children signatures parameters =>
      simp only [id_node, ownedIds_eq, children_node, signatures_node, parameters_node,
        List.mem_append] at kept renamed
      have each (declarations : List Declaration)
          (owned : ∀ number ∈ declarations.flatMap ids,
            numbers.cut.apply number = numbers.apply number % UInt32.size) :
          declarations.map (fun one => ((one.mapInfo fun info =>
              { info with id := numbers.apply info.id }).cut).renameGroups numbers.cut) =
            declarations.map fun one => one.rename numbers.cut.apply :=
        List.map_congr_left fun one member =>
          renameGroups_cut_eq_rename one fun number isNumber =>
            owned number (List.mem_flatMap.mpr ⟨one, member, isNumber⟩)
      have inChildren := each children fun number isNumber => renamed number (.inl isNumber)
      have inSignatures :=
        each signatures fun number isNumber => renamed number (.inr (.inl isNumber))
      have inParameters :=
        each parameters fun number isNumber => renamed number (.inr (.inr isNumber))
      simp only [cut, renameGroups, rename] at inChildren inSignatures inParameters
      simp only [cut, renameGroups, rename, updateInfo, mapInfo_node, id_node, List.map_map,
        Function.comp_def, inChildren, inSignatures, inParameters, renameInfo, kept]

/-- Where there is room, the words of the new numbers are those that are taken. -/
theorem NumbersNext.takeMany?_eq
    {supply : WordSupply}
    {rest : IdSupply}
    {old new : List DeclId}
    {numbers : Renumbering}
    (numbering : NumbersNext ⟨supply.next.toNat⟩ rest old new numbers)
    (hasRoom : supply.HasRoom old.length) :
    supply.takeMany? old.length =
      some (new.map .ofNat, rest.inWords supply.overflow) := by
  have taken := WordSupply.takeMany?_inWords supply.overflow old.length ⟨supply.next.toNat⟩
  rw [WordSupply.inWords_toNat, if_pos hasRoom, IdSupply.takeMany_eq] at taken
  rw [taken, numbering.new_eq, numbering.rest_eq]

/-- Words of numbers are the numbers cut to words. -/
theorem map_toNat_words (numbers : List Nat) :
    (numbers.map UInt32.ofNat).map UInt32.toNat = numbers.map (· % UInt32.size) := by
  rw [List.map_map]
  exact List.map_congr_left fun _ _ => UInt32.toNat_ofNat

/-- What numbering cut to words gives, and what follows it, renumbers with words. -/
theorem CutsTo.renumbersInWords
    {supply : WordSupply}
    {keeps old new : List DeclId}
    {keepsNumber : Declaration → Declaration}
    {outcome : Option (Declaration × Renumbering × WordSupply)}
    {numbered : Declaration × Renumbering × IdSupply}
    (cuts : CutsTo keepsNumber supply old.length outcome numbered)
    (numbering : NumbersNext ⟨supply.next.toNat⟩ numbered.2.2 old new numbered.2.1)
    (ids_eq : declaration.ids = keeps ++ old)
    (distinct : declaration.ids.Nodup)
    (renamed : numbered.1.renameGroups numbered.2.1 =
      declaration.rename numbered.2.1.apply)
    (renamedInWords : (keepsNumber numbered.1).renameGroups numbered.2.1.cut =
      declaration.rename numbered.2.1.cut.apply) :
    RenumbersInWords supply keeps old declaration
      (outcome.bind fun given =>
        some (given.1.renameGroups given.2.1, given.2.1.keepLast, given.2.2))
      (numbered.1.renameGroups numbered.2.1, numbered.2.1.keepLast, numbered.2.2) := by
  have oldDistinct := (List.nodup_append.mp (ids_eq ▸ distinct)).2.1
  have pairs := numbering.pairs
  let follow (given : Declaration × Renumbering × WordSupply) :=
    some (given.1.renameGroups given.2.1, given.2.1.keepLast, given.2.2)
  have outcome_eq : outcome.bind follow = _ := bind_some_of_room cuts rfl
  rw [pairs.cut.keepLast_eq oldDistinct, renamedInWords] at outcome_eq
  rw [outcome_eq]
  refine ⟨?_, ?_, fun fits => ?_⟩
  · rw [ite_eq_right_iff, ← WordSupply.not_hasRoom_iff]
    simp
  · intro after numbers rest isOutcome
    have hasRoom : supply.HasRoom old.length := by
      by_contra noRoom
      simp [noRoom] at isOutcome
    rw [if_pos hasRoom, Option.some.injEq, Prod.mk.injEq, Prod.mk.injEq] at isOutcome
    obtain ⟨rfl, rfl, rfl⟩ := isOutcome
    refine ⟨_, numbering.takeMany?_eq hasRoom, by rw [numbering.new_eq], ?_⟩
    rw [map_toNat_words]
    exact ⟨renumbers_of_pairs pairs.cut oldDistinct rfl,
      ids_rename_of_pairs pairs.cut ids_eq distinct⟩
  · have hasRoom : supply.HasRoom old.length := fun _ => fits
    have areWords (number : DeclId) (isNew : number ∈ new) : number < UInt32.size := by
      rw [numbering.new_eq, List.mem_range'_1] at isNew
      exact Nat.lt_trans isNew.2 fits
    rw [if_pos hasRoom, pairs.cut_eq areWords, pairs.keepLast_eq oldDistinct, renamed]

/--
Renumbering a tree without repeated numbers takes the next words of any supply and gives
them to its nodes, owners first, one after the other, and reports who got which; entries
of groups that name a renumbered node name it by its new number, and all else stays.
Renumbering what a declaration owns does the same but for the declaration itself.
-/
theorem renumbered_one_after_the_other
    (distinct : declaration.ids.Nodup)
    (supply : WordSupply) :
    RenumbersInWords supply [] declaration.ids declaration
        (declaration.renumberInWords? supply)
        (declaration.renumber ⟨supply.next.toNat⟩) ∧
      RenumbersInWords supply [declaration.id] declaration.ownedIds declaration
        (declaration.renumberOwnedInWords? supply)
        (declaration.renumberOwned ⟨supply.next.toNat⟩) := by
  have ⟨topApart, ownedDistinct⟩ :=
    List.nodup_cons.mp (declaration.ids_eq_cons_ownedIds ▸ distinct)
  constructor
  · have cuts := cutsTo_assign supply.overflow declaration ⟨supply.next.toNat⟩
    rw [WordSupply.inWords_toNat] at cuts
    exact cuts.renumbersInWords (numbersNext_assign declaration _) rfl distinct
      (renumber_eq_rename distinct _) (renameGroups_cut_assign distinct _)
  · have cuts := cutsTo_assignOwned supply.overflow declaration ⟨supply.next.toNat⟩
    rw [WordSupply.inWords_toNat] at cuts
    have numbering := numbersNext_assignOwned declaration ⟨supply.next.toNat⟩
    have renamed := renumberOwned_eq_rename ownedDistinct ⟨supply.next.toNat⟩
    rw [updateInfo_rename_of_kept (numbering.pairs.apply_of_not_mem topApart)] at renamed
    exact cuts.renumbersInWords numbering declaration.ids_eq_cons_ownedIds distinct
      renamed (renameGroups_cut_assignOwned distinct _)

/--
The numbers 2, 3 and 4 become 3, 4 and 5: an entry for 3 follows to 4 and no further, and
one for 9 stays.  With two words left the third node gets zero, or there is no result.
-/
theorem renumbered_one_after_the_other_of_overlap :
    let signature : Declaration :=
      ofInfo { id := 4, name := "run", kind := .callSignature }
    let method : Declaration :=
      .node { id := 3, name := "run", kind := .method } [] [signature] []
    let declared : Declaration :=
      .node
        { id := 2, name := "Task", kind := .classDecl, groups := [⟨"Methods", [3, 9]⟩] }
        [method] [] []
    declared.ids.Nodup ∧
      RenumbersInWords ⟨3, .stops⟩ [] [2, 3, 4] declared
        (declared.renumberInWords? ⟨3, .stops⟩) (declared.renumber ⟨3⟩) ∧
      (declared.renumberInWords? ⟨3, .stops⟩).map (·.2.1) = some [(2, 3), (3, 4), (4, 5)] ∧
      (declared.renumberInWords? ⟨3, .stops⟩).map (·.1.info.groups) =
        some [⟨"Methods", [4, 9]⟩] ∧
      (declared.renumberInWords? ⟨4294967294, .wraps⟩).map (·.2.1) =
        some [(2, 4294967294), (3, 4294967295), (4, 0)] ∧
      (declared.renumberInWords? ⟨4294967294, .stops⟩) = none := by
  intro signature method declared
  have distinct : declared.ids.Nodup := by decide
  have renumbers := (renumbered_one_after_the_other distinct ⟨3, .stops⟩).1
  have stops := (renumbered_one_after_the_other distinct ⟨4294967294, .stops⟩).1.stops_iff.mpr
    ⟨rfl, by decide⟩
  exact ⟨distinct, renumbers, by decide, by decide, by decide, stops⟩

end Declaration

end ApiTree.Decl
