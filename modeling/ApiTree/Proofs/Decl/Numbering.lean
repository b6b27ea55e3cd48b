import ApiTree.Proofs.Decl.Paths

namespace ApiTree.Decl

/-!
# Numbers that are taken

Whatever is made, copied or filled in takes its numbers from the supply.  So the
numbers in a tree after a step are some of those before it and, each at most
once, some of those that were taken meanwhile.  That is all that is needed to
keep the numbers of a tree distinct.
-/

/-- How often a number is taken between two that are next: once or never. -/
def timesTaken (first last number : Nat) : Nat :=
  if first ≤ number ∧ number < last then 1 else 0

/--
Numbers after a step that takes those from one number to another: each as often
as before it, or less, and the taken ones once more.
-/
structure Covers
    (first last : Nat)
    (before after : List DeclId) :
    Prop where
  le : first ≤ last
  count_le : ∀ number,
    after.count number ≤ before.count number + timesTaken first last number

namespace Covers

/-- A step that does nothing. -/
theorem refl
    (next : Nat)
    (numbers : List DeclId) :
    Covers next next numbers numbers :=
  ⟨Nat.le_refl _, fun _ => Nat.le_add_right _ _⟩

theorem trans
    {first middle last : Nat}
    {before between after : List DeclId}
    (firstStep : Covers first middle before between)
    (secondStep : Covers middle last between after) :
    Covers first last before after := by
  have firstLe := firstStep.le
  have secondLe := secondStep.le
  refine ⟨Nat.le_trans firstLe secondLe, ?_⟩
  intro number
  have firstCount := firstStep.count_le number
  have secondCount := secondStep.count_le number
  unfold timesTaken at firstCount secondCount ⊢
  -- The two stretches of taken numbers do not overlap, so no number is taken twice.
  split at firstCount <;> split at secondCount <;> split <;> omega

/-- What stands around the numbers of a step stays there. -/
theorem around
    {first last : Nat}
    {before after : List DeclId}
    (step : Covers first last before after)
    (front back : List DeclId) :
    Covers first last
      (front ++ (before ++ back)) (front ++ (after ++ back)) := by
  refine ⟨step.le, ?_⟩
  intro number
  have stepCount := step.count_le number
  simp only [List.count_append]
  omega

theorem prepend
    {first last : Nat}
    {before after : List DeclId}
    (step : Covers first last before after)
    (front : List DeclId) :
    Covers first last (front ++ before) (front ++ after) := by
  simpa using step.around front []

theorem append
    {first middle last : Nat}
    {firstMade secondMade : List DeclId}
    (firstStep : Covers first middle [] firstMade)
    (secondStep : Covers middle last [] secondMade) :
    Covers first last [] (firstMade ++ secondMade) := by
  have second := secondStep.prepend firstMade
  rw [List.append_nil] at second
  exact firstStep.trans second

/-- What a step makes joins numbers that were there. -/
theorem join
    {first last : Nat}
    {made : List DeclId}
    (step : Covers first last [] made)
    (numbers : List DeclId) :
    Covers first last numbers (numbers ++ made) := by
  simpa using step.prepend numbers

/-- Before a step numbers may occur more often. -/
theorem of_count_before
    {first last : Nat}
    {before other after : List DeclId}
    (step : Covers first last before after)
    (countLe : ∀ number, before.count number ≤ other.count number) :
    Covers first last other after :=
  ⟨step.le, fun number =>
    Nat.le_trans (step.count_le number)
      (Nat.add_le_add_right (countLe number) _)⟩

theorem of_count_after
    {first last : Nat}
    {before after other : List DeclId}
    (step : Covers first last before after)
    (countLe : ∀ number, other.count number ≤ after.count number) :
    Covers first last before other :=
  ⟨step.le, fun number =>
    Nat.le_trans (countLe number) (step.count_le number)⟩

/-- A number after a step was there before it or is one of the taken ones. -/
theorem mem_or_taken
    {first last number : Nat}
    {before after : List DeclId}
    (step : Covers first last before after)
    (member : number ∈ after) :
    number ∈ before ∨ (first ≤ number ∧ number < last) := by
  have positive := List.count_pos_iff.mpr member
  have stepCount := step.count_le number
  unfold timesTaken at stepCount
  split at stepCount
  · exact .inr ‹_›
  · exact .inl (List.count_pos_iff.mp (by omega))

/-- The numbers from one to another, each once. -/
theorem of_range (first count : Nat) :
    Covers first (first + count) [] (List.range' first count) := by
  refine ⟨Nat.le_add_right _ _, ?_⟩
  intro number
  have once : (List.range' first count).count number ≤ 1 :=
    List.nodup_iff_count_le_one.mp List.nodup_range' number
  unfold timesTaken
  split
  · simpa using once
  · rename_i outside
    have absent : number ∉ List.range' first count := by
      rw [List.mem_range'_1]
      exact outside
    simp [List.count_eq_zero_of_not_mem absent]

/-- The next number, taken alone. -/
theorem single (next : Nat) : Covers next (next + 1) [] [next] :=
  of_range next 1

end Covers

/--
A tree is numbered from a supply if no number occurs twice in it and all its
numbers are taken.
-/
structure NumberedFrom
    (supply : IdSupply)
    (declaration : Declaration) :
    Prop where
  distinct : declaration.ids.Nodup
  below : ∀ number ∈ declaration.ids, number < supply.next

/-- A step that takes its numbers from the supply keeps a tree numbered from it. -/
theorem NumberedFrom.of_covers
    {first last : IdSupply}
    {before after : Declaration}
    (numbered : NumberedFrom first before)
    (step : Covers first.next last.next before.ids after.ids) :
    NumberedFrom last after := by
  constructor
  · rw [List.nodup_iff_count_le_one]
    intro number
    have stepCount := step.count_le number
    have once := List.nodup_iff_count_le_one.mp numbered.distinct number
    unfold timesTaken at stepCount
    split at stepCount
    · rename_i isTaken
      have absent : number ∉ before.ids := fun member =>
        Nat.not_lt.mpr isTaken.1 (numbered.below number member)
      rw [List.count_eq_zero_of_not_mem absent] at stepCount
      exact stepCount
    · omega
  · intro number member
    rcases step.mem_or_taken member with before | isTaken
    · exact Nat.lt_of_lt_of_le (numbered.below number before) step.le
    · exact isTaken.2

namespace Renumbering

/-- That every old number is paired with a new one, in order. -/
structure Pairs
    (numbers : Renumbering)
    (old new : List DeclId) :
    Prop where
  numbers_eq : numbers = old.zip new
  length_eq : new.length = old.length

namespace Pairs

variable
    {numbers : Renumbering}
    {old new : List DeclId}

theorem map_fst_eq (pairs : numbers.Pairs old new) :
    numbers.map (·.1) = old := by
  rw [pairs.numbers_eq, List.map_fst_zip (Nat.le_of_eq pairs.length_eq.symm)]

theorem map_snd_eq (pairs : numbers.Pairs old new) :
    numbers.map (·.2) = new := by
  rw [pairs.numbers_eq, List.map_snd_zip (Nat.le_of_eq pairs.length_eq)]

/-- Of distinct old numbers each is renamed to the new one it was given. -/
theorem apply_eq
    (pairs : numbers.Pairs old new)
    (distinct : old.Nodup)
    {pair : DeclId × DeclId}
    (member : pair ∈ numbers) :
    numbers.apply pair.1 = pair.2 := by
  have distinctFirsts : (numbers.reverse.map (·.1)).Nodup := by
    rw [List.map_reverse, pairs.map_fst_eq, List.nodup_reverse]
    exact distinct
  cases looked : numbers.reverse.lookup pair.1 with
  | none =>
      have absent := List.lookup_eq_none_iff.mp looked pair (by simpa using member)
      simp at absent
  | some fresh =>
      have listed := Declaration.mem_of_lookup_eq_some looked
      have samePair :=
        List.inj_on_of_nodup_map distinctFirsts listed
          (List.mem_reverse.mpr member) rfl
      have isFresh : fresh = pair.2 := congrArg Prod.snd samePair
      simp [apply, looked, isFresh]

/-- A number that was not numbered keeps its name. -/
theorem apply_of_not_mem
    (pairs : numbers.Pairs old new)
    {number : DeclId}
    (absent : number ∉ old) :
    numbers.apply number = number := by
  cases looked : numbers.reverse.lookup number with
  | none =>
      simp [apply, looked]
  | some fresh =>
      have listed := Declaration.mem_of_lookup_eq_some looked
      rw [List.mem_reverse, pairs.numbers_eq] at listed
      exact (absent (List.of_mem_zip listed).1).elim

end Pairs

end Renumbering

namespace Declaration

/-! ## Numbering a copy -/

/-- What numbering gives: the next numbers, owners first, and who got which. -/
structure NumbersNext
    (supply rest : IdSupply)
    (old new : List DeclId)
    (numbers : Renumbering) :
    Prop where
  new_eq : new = List.range' supply.next old.length
  numbers_eq : numbers = old.zip new
  rest_eq : rest = ⟨supply.next + old.length⟩

namespace NumbersNext

/-- Every old number is paired with the one that is given for it. -/
theorem pairs
    {supply rest : IdSupply}
    {old new : List DeclId}
    {numbers : Renumbering}
    (numbering : NumbersNext supply rest old new numbers) :
    numbers.Pairs old new :=
  ⟨numbering.numbers_eq, by rw [numbering.new_eq, List.length_range']⟩

/-- Nothing to number. -/
theorem nil (supply : IdSupply) : NumbersNext supply supply [] [] [] :=
  ⟨rfl, rfl, rfl⟩

theorem append
    {supply middle rest : IdSupply}
    {firstOld firstNew secondOld secondNew : List DeclId}
    {firstNumbers secondNumbers : Renumbering}
    (first : NumbersNext supply middle firstOld firstNew firstNumbers)
    (second : NumbersNext middle rest secondOld secondNew secondNumbers) :
    NumbersNext supply rest
      (firstOld ++ secondOld) (firstNew ++ secondNew)
      (firstNumbers ++ secondNumbers) := by
  obtain ⟨rfl, rfl, rfl⟩ := first
  obtain ⟨rfl, rfl, rfl⟩ := second
  refine ⟨?_, ?_, ?_⟩
  · simp [List.range'_append_1]
  · exact (List.zip_append (by simp)).symm
  · simp [Nat.add_assoc]

/-- Numbering one node. -/
theorem cons
    {supply rest : IdSupply}
    {old new : List DeclId}
    {numbers : Renumbering}
    (id : DeclId)
    (owned : NumbersNext supply.take.2 rest old new numbers) :
    NumbersNext supply rest (id :: old) (supply.next :: new)
      ((id, supply.next) :: numbers) := by
  have one :
      NumbersNext supply supply.take.2 [id] [supply.next]
        [(id, supply.next)] :=
    ⟨rfl, rfl, rfl⟩
  exact one.append owned

/-- The numbers that are given are those taken from the supply. -/
theorem covers
    {supply rest : IdSupply}
    {old new : List DeclId}
    {numbers : Renumbering}
    (numbering : NumbersNext supply rest old new numbers) :
    Covers supply.next rest.next [] new := by
  obtain ⟨rfl, -, rfl⟩ := numbering
  exact .of_range supply.next old.length

/-- No given number was taken before. -/
theorem le_of_mem
    {supply rest : IdSupply}
    {old new : List DeclId}
    {numbers : Renumbering}
    (numbering : NumbersNext supply rest old new numbers)
    {number : DeclId}
    (member : number ∈ new) :
    supply.next ≤ number := by
  obtain ⟨rfl, -, -⟩ := numbering
  exact (List.mem_range'_1.mp member).1

end NumbersNext

theorem numbersNext_assignAll
    {declarations : List Declaration}
    (each : ∀ one ∈ declarations, ∀ supply,
      NumbersNext supply (one.assign supply).2.2 one.ids
        (one.assign supply).1.ids (one.assign supply).2.1)
    (supply : IdSupply) :
    NumbersNext supply (assignAll supply declarations).2.2
      (declarations.flatMap ids)
      ((assignAll supply declarations).1.flatMap ids)
      (assignAll supply declarations).2.1 := by
  induction declarations generalizing supply with
  | nil =>
      exact .nil supply
  | cons first rest inductionHypothesis =>
      exact (each first List.mem_cons_self supply).append
        (inductionHypothesis
          (fun one member => each one (List.mem_cons_of_mem _ member))
          (first.assign supply).2.2)

/-- A declaration and all that it owns get the next numbers. -/
theorem numbersNext_assign
    (declaration : Declaration)
    (supply : IdSupply) :
    NumbersNext supply (declaration.assign supply).2.2 declaration.ids
      (declaration.assign supply).1.ids (declaration.assign supply).2.1 := by
  induction declaration using ownedInduction generalizing supply with
  | node info children signatures parameters
      childrenHold signaturesHold parametersHold =>
      have numbering :=
        NumbersNext.cons info.id
          ((numbersNext_assignAll childrenHold supply.take.2).append
            ((numbersNext_assignAll signaturesHold _).append
              (numbersNext_assignAll parametersHold _)))
      rw [ids_node]
      simp only [assign, ids_node]
      exact numbering

theorem numbersNext_assignOwned
    (declaration : Declaration)
    (supply : IdSupply) :
    NumbersNext supply (declaration.assignOwned supply).2.2
      declaration.ownedIds (declaration.assignOwned supply).1.ownedIds
      (declaration.assignOwned supply).2.1 := by
  cases declaration with
  | node info children signatures parameters =>
      have each (declarations : List Declaration) (next : IdSupply) :
          NumbersNext next (assignAll next declarations).2.2
            (declarations.flatMap ids)
            ((assignAll next declarations).1.flatMap ids)
            (assignAll next declarations).2.1 :=
        numbersNext_assignAll (fun one _ => numbersNext_assign one) next
      have numbering :=
        (each children supply).append
          ((each signatures _).append (each parameters _))
      simp only [assignOwned, ownedIds_eq]
      exact numbering

/-! ## Renaming -/

/-- The information with its number and the entries of its groups renamed. -/
def renameInfo
    (rename : DeclId → DeclId)
    (info : Info) :
    Info :=
  { info with
    id := rename info.id
    groups := info.groups.map fun group =>
      { group with entries := group.entries.map rename } }

/-- The tree with all numbers renamed, those that groups list included. -/
def rename
    (names : DeclId → DeclId)
    (declaration : Declaration) :
    Declaration :=
  declaration.mapInfo (renameInfo names)

/-- Renaming information twice is renaming it once. -/
theorem renameInfo_renameInfo
    (first second : DeclId → DeclId)
    (info : Info) :
    renameInfo second (renameInfo first info) =
      renameInfo (second ∘ first) info := by
  simp [renameInfo]

/-- Renaming twice is renaming once. -/
theorem rename_rename
    (first second : DeclId → DeclId)
    (declaration : Declaration) :
    (declaration.rename first).rename second =
      declaration.rename (second ∘ first) := by
  simp only [rename, mapInfo_mapInfo, renameInfo_renameInfo]

theorem renameInfo_id (info : Info) :
    renameInfo (fun number => number) info = info := by
  simp [renameInfo]

theorem rename_id (declaration : Declaration) :
    declaration.rename (fun number => number) = declaration := by
  induction declaration using ownedInduction with
  | node info children signatures parameters
      childrenHold signaturesHold parametersHold =>
      simp only [rename] at childrenHold signaturesHold parametersHold ⊢
      rw [mapInfo_node, List.map_congr_left childrenHold,
        List.map_congr_left signaturesHold,
        List.map_congr_left parametersHold, renameInfo_id]
      simp

/-- Numbering several declarations gives each node the number it is renamed to. -/
theorem assignAll_eq_map
    {names : DeclId → DeclId}
    {declarations : List Declaration}
    (each : ∀ one ∈ declarations, ∀ supply,
      (∀ pair ∈ (one.assign supply).2.1, names pair.1 = pair.2) →
        (one.assign supply).1 =
          one.mapInfo fun info => { info with id := names info.id })
    (supply : IdSupply)
    (agrees : ∀ pair ∈ (assignAll supply declarations).2.1,
      names pair.1 = pair.2) :
    (assignAll supply declarations).1 =
      declarations.map
        (mapInfo fun info => { info with id := names info.id }) := by
  induction declarations generalizing supply with
  | nil =>
      rfl
  | cons first rest inductionHypothesis =>
      have inFirst := each first List.mem_cons_self supply
        fun pair member => agrees pair (List.mem_append_left _ member)
      have inRest := inductionHypothesis
        (fun one member => each one (List.mem_cons_of_mem _ member))
        (first.assign supply).2.2
        fun pair member => agrees pair (List.mem_append_right _ member)
      simp only [assignAll, List.map_cons]
      rw [inFirst, inRest]

/-- Numbering gives each node the number it is renamed to. -/
theorem assign_eq_mapInfo
    {names : DeclId → DeclId}
    (declaration : Declaration)
    (supply : IdSupply)
    (agrees : ∀ pair ∈ (declaration.assign supply).2.1,
      names pair.1 = pair.2) :
    (declaration.assign supply).1 =
      declaration.mapInfo fun info => { info with id := names info.id } := by
  induction declaration using ownedInduction generalizing supply with
  | node info children signatures parameters
      childrenHold signaturesHold parametersHold =>
      simp only [assign, List.mem_cons, List.mem_append] at agrees
      have atTop := agrees (info.id, supply.take.1) (.inl rfl)
      have inChildren := assignAll_eq_map childrenHold _
        fun pair member => agrees pair (.inr (.inl member))
      have inSignatures := assignAll_eq_map signaturesHold _
        fun pair member => agrees pair (.inr (.inr (.inl member)))
      have inParameters := assignAll_eq_map parametersHold _
        fun pair member => agrees pair (.inr (.inr (.inr member)))
      simp only [assign, mapInfo_node]
      rw [inChildren, inSignatures, inParameters, atTop]

theorem assignOwned_eq_mapInfo
    {names : DeclId → DeclId}
    (declaration : Declaration)
    (supply : IdSupply)
    (agrees : ∀ pair ∈ (declaration.assignOwned supply).2.1,
      names pair.1 = pair.2) :
    (declaration.assignOwned supply).1 =
      (declaration.mapInfo fun info =>
        { info with id := names info.id }).updateInfo
          fun info => { info with id := declaration.id } := by
  cases declaration with
  | node info children signatures parameters =>
      simp only [assignOwned, List.mem_append] at agrees
      have inChildren :=
        assignAll_eq_map (fun one _ => assign_eq_mapInfo one) _
          fun pair member => agrees pair (.inl member)
      have inSignatures :=
        assignAll_eq_map (fun one _ => assign_eq_mapInfo one) _
          fun pair member => agrees pair (.inr (.inl member))
      have inParameters :=
        assignAll_eq_map (fun one _ => assign_eq_mapInfo one) _
          fun pair member => agrees pair (.inr (.inr member))
      simp only [assignOwned, mapInfo_node, updateInfo, id_node]
      rw [inChildren, inSignatures, inParameters]

/-- A copy of a tree without repeated numbers is the tree renamed. -/
theorem renumber_eq_rename
    {declaration : Declaration}
    (distinct : declaration.ids.Nodup)
    (supply : IdSupply) :
    (declaration.renumber supply).1 =
      declaration.rename (declaration.assign supply).2.1.apply := by
  have agrees (pair : DeclId × DeclId)
      (member : pair ∈ (declaration.assign supply).2.1) :
      (declaration.assign supply).2.1.apply pair.1 = pair.2 :=
    (numbersNext_assign declaration supply).pairs.apply_eq distinct member
  simp only [renumber, renameGroups, rename]
  rw [assign_eq_mapInfo declaration supply agrees, mapInfo_mapInfo]
  rfl

/-- A copy of what a tree owns is the tree renamed, apart from its own number. -/
theorem renumberOwned_eq_rename
    {declaration : Declaration}
    (distinct : declaration.ownedIds.Nodup)
    (supply : IdSupply) :
    (declaration.renumberOwned supply).1 =
      (declaration.rename
        (declaration.assignOwned supply).2.1.apply).updateInfo
          fun info => { info with id := declaration.id } := by
  have agrees (pair : DeclId × DeclId)
      (member : pair ∈ (declaration.assignOwned supply).2.1) :
      (declaration.assignOwned supply).2.1.apply pair.1 = pair.2 :=
    (numbersNext_assignOwned declaration supply).pairs.apply_eq distinct member
  simp only [renumberOwned, renameGroups, rename]
  rw [assignOwned_eq_mapInfo declaration supply agrees]
  cases declaration
  simp only [mapInfo_node, updateInfo, List.map_map, Function.comp_def,
    mapInfo_mapInfo]
  rfl

@[simp] theorem ids_renameGroups
    (numbers : Renumbering)
    (declaration : Declaration) :
    (declaration.renameGroups numbers).ids = declaration.ids := by
  rw [renameGroups]
  apply ids_mapInfo
  intro info
  rfl

@[simp] theorem ownedIds_renameGroups
    (numbers : Renumbering)
    (declaration : Declaration) :
    (declaration.renameGroups numbers).ownedIds = declaration.ownedIds := by
  have sameIds := ids_renameGroups numbers declaration
  rw [ids_eq_cons_ownedIds, ids_eq_cons_ownedIds declaration] at sameIds
  exact (List.cons.inj sameIds).2

/-- A copy is made of numbers from the supply. -/
theorem covers_renumber
    (declaration : Declaration)
    (supply : IdSupply) :
    Covers supply.next (declaration.renumber supply).2.2.next []
      (declaration.renumber supply).1.ids := by
  simpa [renumber] using (numbersNext_assign declaration supply).covers

theorem covers_renumberOwned
    (declaration : Declaration)
    (supply : IdSupply) :
    Covers supply.next (declaration.renumberOwned supply).2.2.next []
      (declaration.renumberOwned supply).1.ownedIds := by
  simpa [renumberOwned] using
    (numbersNext_assignOwned declaration supply).covers

end Declaration

end ApiTree.Decl
