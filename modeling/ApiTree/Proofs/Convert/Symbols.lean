import ApiTree.Proofs.Convert.Recorded
import ApiTree.Proofs.Decl.Renaming
import ApiTree.Proofs.Hierarchy.Provenance
import ApiTree.Proofs.Hierarchy.Relinking
import ApiTree.Proofs.Hierarchy.Twins

namespace ApiTree.Convert

open ApiTree.Decl
open ApiTree.Dump (ApiObject)
open ApiTree.Interp (TypeParser)

/-!
# Symbols of a converted project

Every copied node is reported with the number of its copy, once and in the order
of copying.  So a copy of a copy finds the symbol of what it was copied from, and
after every edge all nodes but the project are known by their names.  In the end
only the numbers in the tree are kept, which are those of all nodes but the
project.
-/

/-! ## Copies -/

theorem recordCopies_append
    (first second : Renumbering)
    (table : SymbolTable) :
    recordCopies (first ++ second) table =
      recordCopies second (recordCopies first table) :=
  List.foldl_append

/-- Only the numbers of copies get symbols. -/
theorem lookup_recordCopies_of_not_mem
    {copies : Renumbering}
    {number : DeclId}
    (apart : number ∉ copies.map (·.2))
    (table : SymbolTable) :
    (recordCopies copies table).lookup number = table.lookup number := by
  induction copies generalizing table with
  | nil =>
      rfl
  | cons first rest inductionHypothesis =>
      obtain ⟨notFirst, notInRest⟩ := not_or.mp (mt List.mem_cons.mpr apart)
      rw [recordCopies, List.foldl_cons]
      refine (inductionHypothesis notInRest _).trans ?_
      split
      · exact SymbolTable.lookup_record_of_ne notFirst
      · rfl

theorem mem_numbers_recordCopies
    {copies : Renumbering}
    {number : DeclId}
    {table : SymbolTable}
    (isNumber : number ∈ (recordCopies copies table).numbers) :
    number ∈ table.numbers ∨ number ∈ copies.map (·.2) := by
  induction copies generalizing table with
  | nil =>
      exact .inl isNumber
  | cons first rest inductionHypothesis =>
      rw [recordCopies, List.foldl_cons] at isNumber
      rcases inductionHypothesis isNumber with wasNumber | inRest
      · split at wasNumber
        · rcases SymbolTable.mem_numbers_record_iff.mp wasNumber with
              rfl | earlier
          · exact .inr List.mem_cons_self
          · exact .inl earlier
        · exact .inl wasNumber
      · exact .inr (List.mem_cons_of_mem _ inRest)

theorem ordered_recordCopies
    (copies : Renumbering)
    {table : SymbolTable}
    (ordered : table.Ordered) :
    (recordCopies copies table).Ordered := by
  induction copies generalizing table with
  | nil =>
      exact ordered
  | cons first rest inductionHypothesis =>
      rw [recordCopies, List.foldl_cons]
      refine inductionHypothesis ?_
      split
      · exact ordered.record
      · exact ordered

/-- What a number was known as at home is what it is known as once copies are reported. -/
theorem lookup_recordCopies_of_home
    {copies : Renumbering}
    {table : SymbolTable}
    {number : DeclId}
    {symbol : Symbol}
    (looked : table.lookup (copies.home number) = some symbol) :
    (recordCopies copies table).lookup number = some symbol := by
  induction copies generalizing table with
  | nil =>
      exact looked
  | cons first rest inductionHypothesis =>
      rw [Renumbering.home_cons] at looked
      rw [recordCopies, List.foldl_cons]
      refine inductionHypothesis ?_
      split at looked
      · rename_i isFirst
        rw [looked, isFirst]
        exact SymbolTable.lookup_record_self
      · rename_i notFirst
        split
        · exact (SymbolTable.lookup_record_of_ne (Ne.symm notFirst)).trans looked
        · exact looked

/-! ## Numbered copies -/

section

variable
    {supply rest : IdSupply}
    {old new : List DeclId}
    {numbers : Renumbering}
    {table : SymbolTable}

/-- What was known keeps its symbol when copies get theirs. -/
theorem lookup_recordCopies_of_lt
    (numbering : Declaration.NumbersNext supply rest old new numbers)
    {number : DeclId}
    (isTaken : number < supply.next) :
    (recordCopies numbers table).lookup number = table.lookup number := by
  refine lookup_recordCopies_of_not_mem ?_ table
  rw [numbering.pairs.map_snd_eq]
  exact fun isNew => Nat.not_le_of_lt isTaken (numbering.le_of_mem isNew)

/-- A renamed node is known by its name if it was before it was renamed. -/
theorem knows_renameInfo
    (numbering : Declaration.NumbersNext supply rest old new numbers)
    (distinct : old.Nodup)
    (taken : ∀ number ∈ old, number < supply.next)
    {info : Info}
    (isOld : info.id ∈ old)
    (knows : table.Knows info) :
    (recordCopies numbers table).Knows
      (Declaration.renameInfo numbers.apply info) := by
  obtain ⟨symbol, looked, isName⟩ := knows
  have atHome := numbering.home_apply distinct taken isOld
  exact ⟨symbol, lookup_recordCopies_of_home (atHome.symm ▸ looked), isName⟩

end

/-- That a table knows what can be copied, under numbers that are taken. -/
structure Copyable
    (table : SymbolTable)
    (supply : IdSupply)
    (member : Declaration) :
    Prop where
  distinct : member.ids.Nodup
  taken : ∀ number ∈ member.ids, number < supply.next
  knows : ∀ info ∈ member.infos, table.Knows info

open Injecting (copyOf fillingOf renamedTo)

section

variable
    {table : SymbolTable}
    {supply : IdSupply}
    {own member : Declaration}

/-- A copy that is reported is known by the names of the member. -/
theorem knows_copyOf
    (copyable : Copyable table supply member)
    (ancestorName : String) :
    (copyOf ancestorName supply member).Everywhere
      (recordCopies (member.renumber supply).2.1 table).Knows := by
  have numbering := Declaration.numbersNext_assign member supply
  intro info isInfo
  obtain ⟨renamed, isRenamed, sameId, sameName⟩ :=
    keeps_of_updateInfo rfl rfl isInfo
  rw [Declaration.renumber_eq_rename copyable.distinct, Declaration.rename,
    Declaration.infos_mapInfo] at isRenamed
  obtain ⟨one, isOne, rfl⟩ := List.mem_map.mp isRenamed
  have knows := knows_renameInfo numbering copyable.distinct copyable.taken
    (Declaration.id_mem_ids_of_info isOne) (copyable.knows one isOne)
  rw [Declaration.copies_renumber copyable.distinct]
  exact knows.of_lookup_eq (by rw [sameId]) sameName.symm

/-- What fills in a member is known by names, and keeps that of the member. -/
theorem knows_fillingOf
    (copyable : Copyable table supply member)
    (ownTaken : own.id < supply.next)
    (ownTracked : Tracked table own.info)
    (sameName : own.name = member.name)
    (ancestorName : String) :
    (fillingOf ancestorName supply own member).Everywhere
      (Tracked (recordCopies ((renamedTo own member).renumberOwned supply).2.1
        table)) := by
  have numbering := Declaration.numbersNext_assignOwned (renamedTo own member) supply
  have distinct := Injecting.nodup_ownedIds_renamedTo copyable.distinct own
  intro info isInfo notRoot
  rw [Declaration.infos_eq_cons_ownedInfos,
    Injecting.ownedInfos_fillingOf copyable.distinct] at isInfo
  rw [Declaration.copies_renumberOwned distinct]
  rcases List.mem_cons.mp isInfo with isTop | isOwned
  · have sameId : info.id = own.id := by
      rw [isTop]
      exact Injecting.id_fillingOf ancestorName supply own member
    have isName : info.name = own.name := by
      rw [isTop, sameName]
      exact Injecting.name_fillingOf ancestorName supply own member
    rw [sameId] at notRoot
    refine (ownTracked notRoot).of_lookup_eq ?_ isName
    rw [sameId]
    exact lookup_recordCopies_of_lt numbering ownTaken
  · obtain ⟨one, isOne, rfl⟩ := List.mem_map.mp isOwned
    have isOld : one.id ∈ (renamedTo own member).ownedIds := by
      rw [Injecting.ownedIds_renamedTo, Declaration.ownedIds_eq_map_ownedInfos]
      exact List.mem_map_of_mem isOne
    refine knows_renameInfo numbering distinct ?_ isOld
      (copyable.knows one (member.ownedInfos_subset_infos isOne))
    intro number isNumber
    rw [Injecting.ownedIds_renamedTo] at isNumber
    exact copyable.taken number (member.ownedIds_subset_ids isNumber)

end

/-! ## Entering members -/

theorem Tracked.of_lookup_eq
    {table other : SymbolTable}
    {info : Info}
    (tracked : Tracked table info)
    (sameLookup : other.lookup info.id = table.lookup info.id) :
    Tracked other info :=
  fun notRoot => (tracked notRoot).of_lookup_eq sameLookup rfl

/-- What is tracked depends on neither groups nor links. -/
theorem relinkable_tracked (table : SymbolTable) : Relinkable (Tracked table) := by
  intro before after relinked tracked
  rw [Tracked, relinked.id_eq]
  exact fun notRoot =>
    (tracked notRoot).of_lookup_eq (by rw [relinked.id_eq]) relinked.name_eq

/-- What a table knows after some members were entered into a class. -/
structure Tracks
    (table : SymbolTable)
    (start now : Injecting) :
    Prop where
  next_le : start.supply.next ≤ now.supply.next
  lookup_eq : ∀ number, number < start.supply.next →
    (recordCopies now.copies table).lookup number =
      (recordCopies start.copies table).lookup number
  numbers : ∀ number ∈ (recordCopies now.copies table).numbers,
    number ∈ (recordCopies start.copies table).numbers ∨
      start.supply.next ≤ number
  taken : ∀ number ∈ now.target.ids, number < now.supply.next
  tracked : now.target.Everywhere (Tracked (recordCopies now.copies table))

namespace Tracks

variable
    {table : SymbolTable}
    {start before after : Injecting}
    {member : Declaration}
    {ancestorName : String}

/-- What could be copied at the start can still be copied. -/
theorem copyable
    (tracks : Tracks table start before)
    (copyable : Copyable (recordCopies start.copies table) start.supply member) :
    Copyable (recordCopies before.copies table) before.supply member where
  distinct := copyable.distinct
  taken number isNumber :=
    Nat.lt_of_lt_of_le (copyable.taken number isNumber) tracks.next_le
  knows info isInfo := by
    have isTaken := copyable.taken info.id (Declaration.id_mem_ids_of_info isInfo)
    exact (copyable.knows info isInfo).of_lookup_eq
      (tracks.lookup_eq info.id isTaken) rfl

/-- Numbers that are given to copies leave what was tracked. -/
theorem numbered
    {old new : List DeclId}
    {numbers : Renumbering}
    {rest : IdSupply}
    (tracks : Tracks table start before)
    (numbering :
      Declaration.NumbersNext before.supply rest old new numbers) :
    (∀ number, number < start.supply.next →
      (recordCopies (before.copies ++ numbers) table).lookup number =
        (recordCopies start.copies table).lookup number) ∧
      (∀ number ∈ (recordCopies (before.copies ++ numbers) table).numbers,
        number ∈ (recordCopies start.copies table).numbers ∨
          start.supply.next ≤ number) ∧
      before.target.Everywhere
        (Tracked (recordCopies (before.copies ++ numbers) table)) := by
  rw [recordCopies_append]
  refine ⟨?_, ?_, ?_⟩
  · intro number isTaken
    exact (lookup_recordCopies_of_lt numbering
      (Nat.lt_of_lt_of_le isTaken tracks.next_le)).trans
        (tracks.lookup_eq number isTaken)
  · intro number isNumber
    rcases mem_numbers_recordCopies isNumber with wasNumber | isNew
    · exact tracks.numbers number wasNumber
    · rw [numbering.pairs.map_snd_eq] at isNew
      exact .inr (Nat.le_trans tracks.next_le (numbering.le_of_mem isNew))
  · intro info isInfo
    have isTaken := tracks.taken info.id (Declaration.id_mem_ids_of_info isInfo)
    exact (tracks.tracked info isInfo).of_lookup_eq
      (lookup_recordCopies_of_lt numbering isTaken)

/-- Entering a member keeps all nodes of the class known by their names. -/
theorem enters
    (tracks : Tracks table start before)
    (enters : Injecting.Enters ancestorName before member after)
    (copyable : Copyable (recordCopies start.copies table) start.supply member) :
    Tracks table start after := by
  have nextLe := enters.covers_target.le
  have taken : ∀ number ∈ after.target.ids, number < after.supply.next := by
    intro number isNumber
    rcases enters.covers_target.mem_or_taken isNumber with wasNumber | isTaken
    · exact Nat.lt_of_lt_of_le (tracks.taken number wasNumber) nextLe
    · exact isTaken.2
  have copyableNow := tracks.copyable copyable
  cases enters with
  | halted _ same => exact same ▸ tracks
  | stands _ _ _ _ _ _ same => exact same ▸ tracks
  | refused _ _ _ same =>
      subst same
      exact ⟨tracks.next_le, tracks.lookup_eq, tracks.numbers, tracks.taken,
        tracks.tracked⟩
  | appends _ _ _ _ regrouped children_eq supply_eq _ copies_eq =>
      rw [Declaration.copies_renumber copyable.distinct] at copies_eq
      obtain ⟨lookupEq, numbers, tracked⟩ := tracks.numbered
        (Declaration.numbersNext_assign member before.supply)
      rw [← copies_eq] at lookupEq numbers tracked
      have copyKnown := knows_copyOf copyableNow ancestorName
      rw [Declaration.copies_renumber copyable.distinct, ← recordCopies_append,
        ← copies_eq] at copyKnown
      refine ⟨Nat.le_trans tracks.next_le nextLe, lookupEq, numbers, taken, ?_⟩
      obtain ⟨-, inChildren, -⟩ := Declaration.everywhere_iff.mp tracked
      refine regrouped.everywhere (relinkable_tracked _) tracked ?_
      rw [children_eq]
      exact List.forall_mem_append.mpr
        ⟨inChildren, List.forall_mem_singleton.mpr
          fun info isInfo _ => copyKnown info isInfo⟩
  | fills position own _ first found _ regrouped children_eq supply_eq _
      copies_eq =>
      have ownMember := List.mem_of_getElem? found
      have distinct := Injecting.nodup_ownedIds_renamedTo copyable.distinct own
      rw [Declaration.copies_renumberOwned distinct] at copies_eq
      obtain ⟨lookupEq, numbers, tracked⟩ := tracks.numbered
        (Declaration.numbersNext_assignOwned (renamedTo own member)
          before.supply)
      rw [← copies_eq] at lookupEq numbers tracked
      have ownTaken : own.id < before.supply.next :=
        tracks.taken own.id (Declaration.ownedIds_subset_ids _
          (Declaration.ids_subset_ownedIds ownMember own.id_mem_ids))
      obtain ⟨other, otherFound, sameName⟩ :=
        Injecting.exists_of_memberPosition? first
      obtain rfl : own = other :=
        Option.some.inj (found.symm.trans otherFound)
      obtain ⟨-, wasTracked, -⟩ := Declaration.everywhere_iff.mp tracks.tracked
      have fillingTracked := knows_fillingOf copyableNow ownTaken
        (wasTracked own ownMember own.info own.info_mem_infos) sameName
        ancestorName
      rw [Declaration.copies_renumberOwned distinct, ← recordCopies_append,
        ← copies_eq] at fillingTracked
      refine ⟨Nat.le_trans tracks.next_le nextLe, lookupEq, numbers, taken, ?_⟩
      obtain ⟨-, inChildren, -⟩ := Declaration.everywhere_iff.mp tracked
      refine regrouped.everywhere (relinkable_tracked _) tracked ?_
      intro child isChild
      rw [children_eq] at isChild
      rcases List.mem_or_eq_of_mem_set isChild with wasChild | rfl
      · exact inChildren child wasChild
      · exact fillingTracked

end Tracks

/-! ## Following edges -/

open Inheriting
  (Meets Flows opening received linkTo linkBack propagate copies_propagate)

variable
    {paths : List (DeclId × Path)}
    {before : Inheriting}
    {edge : Edge}
    {table : SymbolTable}

/-- What a class has received from another is known by names. -/
theorem tracks_received
    {ancestor descendant : Declaration}
    (taken : ∀ number ∈ descendant.ids, number < before.supply.next)
    (tracked : descendant.Everywhere
      (Tracked (recordCopies before.copies table)))
    (copyable : ∀ member ∈ ancestor.children,
      Copyable (recordCopies before.copies table) before.supply member) :
    Tracks table (opening before edge ancestor descendant)
      (received before edge ancestor descendant) := by
  refine Injecting.foldl_inject_induction
    (motive := Tracks table (opening before edge ancestor descendant)) ?_ ?_
  · refine
      { next_le := Nat.le_refl _
        lookup_eq := fun _ _ => rfl
        numbers := fun _ isNumber => .inl isNumber
        taken := ?_
        tracked := ?_ }
    · intro number isNumber
      have sameIds :
          (opening before edge ancestor descendant).target.ids =
            descendant.ids :=
        Declaration.ids_updateInfo descendant rfl
      rw [sameIds] at isNumber
      exact taken number isNumber
    · exact Inheriting.everywhere_opening (relinkable_tracked _) tracked
  · intro between after member isMember enters tracks
    exact tracks.enters enters (copyable member isMember)

/-- What stands strictly below the project has other numbers than the project. -/
theorem ne_rootId_of_descendant?
    {root owner member : Declaration}
    {path : Path}
    (distinct : root.ids.Nodup)
    (isRoot : root.id = rootId)
    (leads : root.descendant? path = some owner)
    (isMember : member ∈ owner.children) :
    ∀ number ∈ member.ids, number ≠ rootId := by
  intro number isNumber
  have ownerDistinct := Declaration.nodup_ids_of_descendant? distinct leads
  rw [Declaration.ids_eq_cons_ownedIds] at distinct ownerDistinct
  have isOwned := Declaration.ids_subset_ownedIds isMember isNumber
  rintro rfl
  cases path with
  | nil =>
      cases leads
      exact (List.nodup_cons.mp ownerDistinct).1 (isRoot ▸ isOwned)
  | cons index rest =>
      obtain ⟨child, isChild, leadsOn⟩ :=
        Declaration.descendant?_cons_eq_some_iff.mp leads
      refine (List.nodup_cons.mp distinct).1 (isRoot ▸ ?_)
      refine Declaration.ids_subset_ownedIds (List.mem_of_getElem? isChild) ?_
      exact Declaration.ids_subset_of_descendant? leadsOn
        (Declaration.ownedIds_subset_ids _ isOwned)

section

variable
    (numbered : NumberedFrom before.supply before.root)
    (isRoot : before.root.id = rootId)
    (indexes : Indexes (recordCopies before.copies table) before.root)

include numbered isRoot indexes

/-- The members of a class can be copied, since they are known. -/
theorem Indexes.copyable
    {path : Path}
    {owner member : Declaration}
    (leads : before.root.descendant? path = some owner)
    (isMember : member ∈ owner.children) :
    Copyable (recordCopies before.copies table) before.supply member := by
  have included := List.Subset.trans (Declaration.infos_subset_of_child isMember)
    (Declaration.infos_subset_of_descendant? leads)
  have ownerDistinct :=
    Declaration.nodup_ids_of_descendant? numbered.distinct leads
  have notRoot := ne_rootId_of_descendant? numbered.distinct isRoot leads isMember
  refine
    { distinct := Declaration.nodup_ids_of_child ownerDistinct isMember
      taken := ?_
      knows := ?_ }
  · intro number isNumber
    exact numbered.below number (Declaration.ids_subset_of_descendant? leads
      (Declaration.ownedIds_subset_ids owner
        (Declaration.ids_subset_ownedIds isMember isNumber)))
  · intro info isInfo
    exact indexes.tracked info (included isInfo)
      (notRoot info.id (Declaration.id_mem_ids_of_info isInfo))

/-- Where an edge is followed, copies are recorded and all else stays known. -/
theorem Indexes.followed
    (tableOrdered : table.Ordered)
    {ancestorPath descendantPath : Path}
    {ancestor descendant : Declaration}
    (running : before.failure = none)
    (meets : Meets paths before.root edge ancestorPath descendantPath
      ancestor descendant) :
    Indexes (recordCopies (Inheriting.propagate paths before edge).copies table)
      (Inheriting.propagate paths before edge).root := by
  have tracks : Tracks table (opening before edge ancestor descendant)
      (received before edge ancestor descendant) :=
    tracks_received
      (fun number isNumber => numbered.below number
        (Declaration.ids_subset_of_descendant? meets.descendant_found isNumber))
      (indexes.tracked.descendant? meets.descendant_found)
      fun _ => indexes.copyable numbered isRoot meets.ancestor_found
  rw [copies_propagate running meets]
  refine ⟨ordered_recordCopies _ tableOrdered, ?_, ?_⟩
  · intro isNumber
    rcases tracks.numbers rootId isNumber with wasNumber | isNew
    · exact indexes.apart wasNumber
    · have isTaken := numbered.below before.root.id before.root.id_mem_ids
      rw [isRoot] at isTaken
      exact Nat.not_le_of_lt isTaken isNew
  · refine (Inheriting.flows_propagate paths before edge).everywhere_of_received
      (relinkable_tracked _) ?_ ?_
    · -- Elsewhere nothing changes, since copies get numbers that were not taken.
      intro info isInfo
      exact (indexes.tracked info isInfo).of_lookup_eq (tracks.lookup_eq info.id
        (numbered.below info.id (Declaration.id_mem_ids_of_info isInfo)))
    · intro _ _ _ _ other
      obtain ⟨-, -, rfl, rfl⟩ := meets.unique other
      exact tracks.tracked

/-- An edge keeps all nodes but the project known by their names. -/
theorem Indexes.propagate
    (tableOrdered : table.Ordered)
    (paths : List (DeclId × Path))
    (edge : Edge) :
    Indexes (recordCopies (propagate paths before edge).copies table)
      (propagate paths before edge).root := by
  cases Inheriting.flows_propagate paths before edge with
  | halted _ same => exact same.symm ▸ indexes
  | skipped _ _ same => exact same.symm ▸ indexes
  | fails _ _ _ _ _ running meets =>
      exact indexes.followed numbered isRoot tableOrdered running meets
  | flows _ _ _ _ running meets =>
      exact indexes.followed numbered isRoot tableOrdered running meets

end

/-- After members were inherited all nodes but the project are known by names. -/
theorem indexes_inherited
    (options : Options)
    (modules : List ApiObject) :
    Indexes
      (recordCopies (inherited options modules).copies
        (assemble options modules).2.symbols)
      (inherited options modules).root := by
  have assembled := indexes_assemble options modules
  have numbered := numberedFrom_assemble options modules
  rw [inherited, Hierarchy.resolve_eq_flowAlong]
  generalize Hierarchy.schedule _ = edges
  induction edges using List.reverseRecOn with
  | nil =>
      exact assembled
  | append_singleton earlier edge inductionHypothesis =>
      rw [Hierarchy.flowAlong_concat]
      exact inductionHypothesis.propagate
        (Hierarchy.numberedFrom_flowAlong numbered earlier)
        ((Hierarchy.id_flowAlong _ _ _).trans (id_assemble options modules))
        assembled.ordered _ _

/-! ## Converting -/

/-- The symbols of a converted project are those of the numbers in its tree. -/
theorem symbols_eq_filter
    {options : Options}
    {parser : TypeParser}
    {modules : List ApiObject}
    {conversion : Conversion}
    (converted : convertModules options parser modules = .ok conversion) :
    conversion.project.symbols =
      (recordCopies (inherited options modules).copies
        (assemble options modules).2.symbols).filter fun entry =>
          conversion.project.root.ids.contains entry.1 := by
  obtain ⟨answers, finished⟩ := exists_finished converted
  rw [finished.ids_eq]
  simp only [convertModules] at converted
  split at converted
  · cases converted
  · split at converted
    · cases converted
    · cases converted
      simp only [link, Resolve.Resolved.apply,
        Declaration.ids_mapInfo (id_applyInfo _)]
      rfl

/-- The nodes of a converted project but the project itself have other numbers. -/
theorem Finished.ne_rootId
    {options : Options}
    {parser : TypeParser}
    {modules : List ApiObject}
    {conversion : Conversion}
    {answers : Resolve.Answers}
    (finished : Finished options parser modules conversion answers) :
    conversion.project.root.id = rootId ∧
      ∀ number ∈ conversion.project.root.ownedIds, number ≠ rootId := by
  have distinct := (numberedFrom_inherited options modules).distinct
  have isRoot := id_inherited options modules
  have sameIds := finished.ids_eq
  rw [Declaration.ids_eq_cons_ownedIds,
    Declaration.ids_eq_cons_ownedIds (inherited options modules).root,
    isRoot] at sameIds
  obtain ⟨sameRoot, sameOwned⟩ := List.cons.inj sameIds
  refine ⟨sameRoot, ?_⟩
  rw [Declaration.ids_eq_cons_ownedIds] at distinct
  rintro number isOwned rfl
  rw [sameOwned, ← isRoot] at isOwned
  exact (List.nodup_cons.mp distinct).1 isOwned

/--
The symbols of a converted project have the numbers of all nodes but the project,
each once and in increasing order, and each symbol has the name of the node with its
number.
-/
theorem symbols_match_nodes
    {options : Options}
    {parser : TypeParser}
    {modules : List ApiObject}
    {conversion : Conversion}
    (converted : convertModules options parser modules = .ok conversion) :
    let project := conversion.project
    (project.symbols.map (·.1)).Pairwise (· < ·) ∧
      (∀ number, number ∈ project.symbols.map (·.1) ↔
        number ∈ project.root.ownedIds) ∧
      ∀ node ∈ project.root.owned, ∃ symbol,
        project.symbols.lookup node.id = some symbol ∧
          symbol.name = node.name := by
  obtain ⟨answers, finished⟩ := exists_finished converted
  obtain ⟨isRoot, notRoot⟩ := finished.ne_rootId
  have indexes := indexes_inherited options modules
  have symbolsEq := symbols_eq_filter converted
  have known : ∀ node ∈ conversion.project.root.owned, ∃ symbol,
      conversion.project.symbols.lookup node.id = some symbol ∧
        symbol.name = node.name := by
    intro node isOwned
    have isOwnedId : node.id ∈ conversion.project.root.ownedIds :=
      List.mem_map_of_mem isOwned
    have isInfo : node.info ∈ conversion.project.root.infos :=
      List.mem_map_of_mem (Declaration.mem_nodes_of_owned isOwned)
    obtain ⟨old, isOld, finishes⟩ :=
      exists_of_mem_right finished.forall₂_infos isInfo
    have sameId : node.id = old.id := finishes.id_eq
    obtain ⟨symbol, looked, isName⟩ :=
      indexes.tracked old isOld (sameId ▸ notRoot node.id isOwnedId)
    refine ⟨symbol, ?_, isName.trans finishes.name_eq.symm⟩
    rw [symbolsEq, SymbolTable.lookup_filter ?_, sameId]
    · exact looked
    · rw [List.contains_iff_mem]
      exact Declaration.ownedIds_subset_ids _ isOwnedId
  refine ⟨?_, ?_, known⟩
  · rw [symbolsEq, List.pairwise_map]
    exact indexes.ordered.filter _
  · intro number
    constructor
    · intro isNumber
      rw [symbolsEq] at isNumber
      obtain ⟨entry, isEntry, rfl⟩ := List.mem_map.mp isNumber
      obtain ⟨wasEntry, isPresent⟩ := List.mem_filter.mp isEntry
      rw [List.contains_iff_mem, Declaration.ids_eq_cons_ownedIds] at isPresent
      rcases List.mem_cons.mp isPresent with isTop | isOwned
      · refine (indexes.apart ?_).elim
        rw [← isRoot, ← isTop]
        exact List.mem_map_of_mem wasEntry
      · exact isOwned
    · intro isOwned
      obtain ⟨node, isNode, rfl⟩ := List.mem_map.mp isOwned
      obtain ⟨symbol, looked, -⟩ := known node isNode
      exact SymbolTable.mem_numbers_of_lookup looked

/-- The overridden method is filled in, and its new signature has a symbol. -/
theorem symbols_match_nodes_of_override :
    ∃ conversion,
      convertModules {} TypeParser.silent overridingModules = .ok conversion ∧
        (∀ number, number ∈ conversion.project.symbols.map (·.1) ↔
          number ∈ conversion.project.root.ownedIds) ∧
        ∀ node ∈ conversion.project.root.owned, ∃ symbol,
          conversion.project.symbols.lookup node.id = some symbol ∧
            symbol.name = node.name := by
  have inherits : (inherited {} overridingModules).failure = none := by
    decide +kernel
  obtain ⟨conversion, converted⟩ := exists_silent_conversion inherits
  obtain ⟨-, sameNumbers, known⟩ := symbols_match_nodes converted
  exact ⟨conversion, converted, sameNumbers, known⟩

end ApiTree.Convert
