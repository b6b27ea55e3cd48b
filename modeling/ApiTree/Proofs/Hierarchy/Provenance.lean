import ApiTree.Proofs.Hierarchy.Heritable
import ApiTree.Proofs.Hierarchy.Origins
import ApiTree.Proofs.Hierarchy.Top

namespace ApiTree.Decl

/-!
# Where nodes come from

Every node of a tree in which members have flowed goes back to two nodes of the tree
before.  One is the node that it stands for: the node itself, or what it is a copy of,
or what that is a copy of, and so on.  The other is the node whose contents it has.  The
two are the same unless a member was filled in, and then the first is a member without a
summary.
-/

/-! ## Numbers of copies -/

/-- The number that a node had before it was copied, and the copy was copied, and so on. -/
def Renumbering.home
    (copies : Renumbering)
    (number : DeclId) :
    DeclId :=
  copies.foldr (fun pair number => if pair.2 = number then pair.1 else number) number

namespace Renumbering

theorem home_cons
    (first : DeclId × DeclId)
    (rest : Renumbering)
    (number : DeclId) :
    home (first :: rest) number =
      if first.2 = rest.home number then first.1 else rest.home number :=
  rfl

theorem home_append
    (first second : Renumbering)
    (number : DeclId) :
    home (first ++ second) number = first.home (second.home number) :=
  List.foldr_append

theorem home_of_not_mem
    {copies : Renumbering}
    {number : DeclId}
    (apart : number ∉ copies.map (·.2)) :
    copies.home number = number := by
  induction copies with
  | nil =>
      rfl
  | cons first rest inductionHypothesis =>
      obtain ⟨notFirst, notInRest⟩ := not_or.mp (mt List.mem_cons.mpr apart)
      rw [home_cons, inductionHypothesis notInRest, if_neg (Ne.symm notFirst)]

end Renumbering

namespace Declaration.NumbersNext

variable
    {supply rest : IdSupply}
    {old new : List DeclId}
    {numbers : Renumbering}

/-- What was there before is at home under its own number. -/
theorem home_of_lt
    (numbering : NumbersNext supply rest old new numbers)
    {number : DeclId}
    (isTaken : number < supply.next) :
    numbers.home number = number := by
  refine Renumbering.home_of_not_mem ?_
  rw [numbering.pairs.map_snd_eq]
  exact fun isNew => Nat.not_le_of_lt isTaken (numbering.le_of_mem isNew)

/-- A copy is at home where it was copied from. -/
theorem home_apply
    (numbering : NumbersNext supply rest old new numbers)
    (distinct : old.Nodup)
    (taken : ∀ number ∈ old, number < supply.next)
    {number : DeclId}
    (isOld : number ∈ old) :
    numbers.home (numbers.apply number) = number := by
  have isPair := numbering.pair_mem distinct isOld
  have newDistinct : (numbers.map (·.2)).Nodup := by
    rw [numbering.pairs.map_snd_eq, numbering.new_eq]
    exact List.nodup_range'
  have newFree : ∀ pair ∈ numbers, supply.next ≤ pair.2 := by
    intro pair isOne
    refine numbering.le_of_mem ?_
    rw [← numbering.pairs.map_snd_eq]
    exact List.mem_map_of_mem isOne
  generalize numbers.apply number = fresh at isPair ⊢
  obtain ⟨front, back, rfl⟩ := List.append_of_mem isPair
  rw [List.map_append, List.map_cons, List.nodup_middle, List.nodup_cons,
    List.mem_append, not_or] at newDistinct
  rw [Renumbering.home_append, Renumbering.home_cons,
    Renumbering.home_of_not_mem newDistinct.1.2, if_pos rfl]
  refine Renumbering.home_of_not_mem fun isNew => ?_
  obtain ⟨pair, isOne, rfl⟩ := List.mem_map.mp isNew
  exact Nat.not_le_of_lt (taken _ isOld) (newFree pair (List.mem_append_left _ isOne))

end Declaration.NumbersNext

/-! ## Nodes that say the same -/

/-- That a node says what another one says, but for its number, its groups and its links. -/
def Echoes (origin info : Info) : Prop :=
  ∃ id groups extendedTypes extendedBy inheritedFrom,
    info =
      { origin with
        id := id
        groups := groups
        extendedTypes := extendedTypes
        extendedBy := extendedBy
        inheritedFrom := inheritedFrom }

namespace Echoes

theorem refl (info : Info) : Echoes info info :=
  ⟨info.id, info.groups, info.extendedTypes, info.extendedBy, info.inheritedFrom, rfl⟩

theorem trans
    {first second third : Info}
    (firstEchoes : Echoes first second)
    (secondEchoes : Echoes second third) :
    Echoes first third := by
  obtain ⟨_, _, _, _, _, rfl⟩ := firstEchoes
  obtain ⟨id, groups, extendedTypes, extendedBy, inheritedFrom, rfl⟩ := secondEchoes
  exact ⟨id, groups, extendedTypes, extendedBy, inheritedFrom, rfl⟩

theorem of_relinked
    {before after : Info}
    (relinked : Relinked before after) :
    Echoes before after := by
  obtain ⟨groups, extendedTypes, extendedBy, rfl⟩ := relinked
  exact ⟨before.id, groups, extendedTypes, extendedBy, before.inheritedFrom, rfl⟩

theorem of_copiedFrom
    {member copy : Info}
    (copied : CopiedFrom member copy) :
    Echoes member copy := by
  obtain ⟨id, groups, origin, rfl⟩ := copied
  exact ⟨id, groups, member.extendedTypes, member.extendedBy, some origin, rfl⟩

theorem renameInfo
    (names : DeclId → DeclId)
    (info : Info) :
    Echoes info (Declaration.renameInfo names info) :=
  ⟨names info.id, _, info.extendedTypes, info.extendedBy, info.inheritedFrom, rfl⟩

variable {origin info : Info}

theorem name_eq (echoes : Echoes origin info) : info.name = origin.name := by
  obtain ⟨_, _, _, _, _, rfl⟩ := echoes
  rfl

theorem kind_eq (echoes : Echoes origin info) : info.kind = origin.kind := by
  obtain ⟨_, _, _, _, _, rfl⟩ := echoes
  rfl

theorem moduleLabel_eq
    (echoes : Echoes origin info) :
    info.moduleLabel = origin.moduleLabel := by
  obtain ⟨_, _, _, _, _, rfl⟩ := echoes
  rfl

theorem hasSummary_eq
    (echoes : Echoes origin info) :
    info.hasSummary = origin.hasSummary := by
  obtain ⟨_, _, _, _, _, rfl⟩ := echoes
  rfl

theorem sources_eq (echoes : Echoes origin info) : info.sources = origin.sources := by
  obtain ⟨_, _, _, _, _, rfl⟩ := echoes
  rfl

end Echoes

/-- That each member was found at some place. -/
def Spotted (infos : List Info) : Prop :=
  ∀ info ∈ infos, info.sources ≠ []

theorem heritable_spotted : Heritable Spotted :=
  heritable_of_each (fun _ _ _ _ isSpotted => isSpotted) fun _ _ change isSpotted =>
    (Echoes.of_relinked change).sources_eq ▸ isSpotted

/-! ## The nodes that a node goes back to -/

/-- The number of the declaration that a node was inherited from, or else its own. -/
def Info.source? (info : Info) : Option DeclId :=
  match info.inheritedFrom with
  | some origin => origin.target
  | none => some info.id

theorem Info.answers_of_source?
    {info : Info}
    {number : DeclId}
    (isSource : info.source? = some number) :
    info.Answers number := by
  unfold source? at isSource
  split at isSource
  · rename_i origin inherited
    exact .inr (by simpa [inherited] using isSource)
  · exact .inl (Option.some.inj isSource)

/-- The nodes that others go back to, and the numbers of those that nothing is copied from. -/
structure Pool where
  infos : List Info
  uncopied : List DeclId

/--
That a node stands for one node of a pool, which it is a copy of or fills in, and has
the contents of another one, given which numbers were copied to which.
-/
structure Descends
    (pool : Pool)
    (copies : Renumbering)
    (info own origin : Info) :
    Prop where
  own_mem : own ∈ pool.infos
  own_id : own.id = copies.home info.id
  origin_mem : origin ∈ pool.infos
  origin_id : info.source?.map copies.home = some origin.id
  echoes : Echoes origin info
  name_eq : own.name = origin.name
  filled : own = origin ∨ own.hasSummary = false ∧ own.sources ≠ []
  /-- Only a node itself has the contents of one that nothing is copied from. -/
  itself : origin.id ∈ pool.uncopied → info.id = origin.id

namespace Descends

variable
    {pool : Pool}
    {copies : Renumbering}
    {info own origin : Info}

/-- A node that is not inherited goes back to itself. -/
theorem self
    (isMember : info ∈ pool.infos)
    (notInherited : info.inheritedFrom = none) :
    Descends pool [] info info info where
  own_mem := isMember
  own_id := rfl
  origin_mem := isMember
  origin_id := by
    rw [Info.source?, notInherited]
    rfl
  echoes := .refl info
  name_eq := rfl
  filled := .inl rfl
  itself _ := rfl

/-- Links and groups do not decide where a node comes from. -/
theorem relinked
    {after : Info}
    (descends : Descends pool copies info own origin)
    (change : Relinked info after) :
    Descends pool copies after own origin :=
  { descends with
    own_id := by rw [change.id_eq, descends.own_id]
    origin_id := by
      rw [Info.source?, change.inheritedFrom_eq, change.id_eq]
      exact descends.origin_id
    echoes := descends.echoes.trans (.of_relinked change)
    itself := fun isUncopied => change.id_eq.trans (descends.itself isUncopied) }

/-- Where a node comes from depends on the homes of its number and its source. -/
theorem of_home_eq
    {other : Renumbering}
    (descends : Descends pool copies info own origin)
    (same : ∀ number, info.Answers number → other.home number = copies.home number) :
    Descends pool other info own origin :=
  { descends with
    own_id := by rw [same info.id (.inl rfl), descends.own_id]
    origin_id := by
      obtain ⟨number, isSource, atHome⟩ := Option.map_eq_some_iff.mp descends.origin_id
      rw [isSource, Option.map_some, same number (Info.answers_of_source? isSource), atHome] }

/-- A member without a summary stands for one without. -/
theorem undocumented_own
    (descends : Descends pool copies info own origin)
    (undocumented : info.hasSummary = false)
    (isSpotted : info.sources ≠ []) :
    own.hasSummary = false ∧ own.sources ≠ [] := by
  rcases descends.filled with rfl | isFilled
  · exact ⟨descends.echoes.hasSummary_eq ▸ undocumented,
      descends.echoes.sources_eq ▸ isSpotted⟩
  · exact isFilled

theorem name_own
    (descends : Descends pool copies info own origin) :
    own.name = info.name :=
  descends.name_eq.trans descends.echoes.name_eq.symm

/-- What may be copied has the contents of what may be copied. -/
theorem copied_origin
    (descends : Descends pool copies info own origin)
    (isCopied : info.id ∉ pool.uncopied) :
    origin.id ∉ pool.uncopied :=
  fun isUncopied => isCopied (descends.itself isUncopied ▸ isUncopied)

section

variable
    {supply rest : IdSupply}
    {old new : List DeclId}
    {numbers : Renumbering}
    (numbering : Declaration.NumbersNext supply rest old new numbers)
    (taken : ∀ number, info.Answers number → number < supply.next)

include numbering taken

/-- What a node goes back to stays when others are copied. -/
theorem later
    (descends : Descends pool copies info own origin) :
    Descends pool (copies ++ numbers) info own origin :=
  descends.of_home_eq fun number answers => by
    rw [Renumbering.home_append, numbering.home_of_lt (taken number answers)]

/-- A copy goes back to what the node goes back to that it is a copy of. -/
theorem renamed
    (distinct : old.Nodup)
    (oldTaken : ∀ number ∈ old, number < supply.next)
    (isOld : info.id ∈ old)
    (isCopied : info.id ∉ pool.uncopied)
    (descends : Descends pool copies info own origin) :
    Descends pool (copies ++ numbers) (Declaration.renameInfo numbers.apply info) own
      origin := by
  have atHome : Renumbering.home (copies ++ numbers) (numbers.apply info.id) =
      copies.home info.id := by
    rw [Renumbering.home_append, numbering.home_apply distinct oldTaken isOld]
  refine
    { descends with
      own_id := descends.own_id.trans atHome.symm
      origin_id := ?_
      echoes := descends.echoes.trans (.renameInfo _ info)
      itself := fun isUncopied => (descends.copied_origin isCopied isUncopied).elim }
  have isSource := (descends.later numbering taken).origin_id
  unfold Info.source? at isSource ⊢
  cases inherited : info.inheritedFrom with
  | some link =>
      rw [inherited] at isSource
      simpa [Declaration.renameInfo, inherited] using isSource
  | none =>
      have isOwn := descends.origin_id
      rw [Info.source?, inherited] at isOwn
      simpa [Declaration.renameInfo, inherited, atHome] using isOwn

end

/--
What stands in the place of a node and says what another one says goes back to what the
first stands for and to what the second has the contents of.
-/
theorem placed
    {member copy memberOwn : Info}
    {link : Link}
    {place : DeclId}
    (descends : Descends pool copies member memberOwn origin)
    (isCopied : member.id ∉ pool.uncopied)
    (copied : CopiedFrom member copy)
    (isLink : copy.inheritedFrom = some link)
    (target_eq : link.target = member.source?)
    (isPlace : copy.id = place)
    (own_mem : own ∈ pool.infos)
    (own_id : own.id = copies.home place)
    (name_eq : own.name = member.name)
    (filled : own = origin ∨ own.hasSummary = false ∧ own.sources ≠ []) :
    Descends pool copies copy own origin where
  own_mem := own_mem
  own_id := by rw [own_id, isPlace]
  origin_mem := descends.origin_mem
  origin_id := by
    have isSource : copy.source? = member.source? := by
      rw [Info.source?, isLink]
      exact target_eq
    rw [isSource]
    exact descends.origin_id
  echoes := descends.echoes.trans (.of_copiedFrom copied)
  name_eq := name_eq.trans descends.echoes.name_eq
  filled := filled
  itself isUncopied := (descends.copied_origin isCopied isUncopied).elim

end Descends

/-- That a node goes back to nodes of a pool. -/
def Derived
    (pool : Pool)
    (copies : Renumbering)
    (info : Info) :
    Prop :=
  ∃ own origin, Descends pool copies info own origin

theorem relinkable_derived
    (pool : Pool)
    (copies : Renumbering) :
    Relinkable (Derived pool copies) := by
  rintro before after change ⟨own, origin, descends⟩
  exact ⟨own, origin, descends.relinked change⟩

/-! ## Entering members -/

/-- That a member can be copied: its numbers are taken, and its nodes go back to a pool. -/
structure Sourced
    (pool : Pool)
    (copies : Renumbering)
    (next : Nat)
    (member : Declaration) :
    Prop where
  distinct : member.ids.Nodup
  spotted : member.info.sources ≠ []
  taken : ∀ info ∈ member.infos, ∀ number, info.Answers number → number < next
  derived : member.Everywhere (Derived pool copies)
  copied : ∀ number ∈ member.ids, number ∉ pool.uncopied

namespace Sourced

variable
    {pool : Pool}
    {copies : Renumbering}
    {next : Nat}
    {member : Declaration}

theorem ids_lt
    (sourced : Sourced pool copies next member) :
    ∀ number ∈ member.ids, number < next := by
  intro number isNumber
  rw [Declaration.ids_eq_map_infos] at isNumber
  obtain ⟨info, isInfo, rfl⟩ := List.mem_map.mp isNumber
  exact sourced.taken info isInfo info.id (.inl rfl)

/-- What could be copied before can still be copied. -/
theorem later
    {other : Renumbering}
    {bound : Nat}
    (sourced : Sourced pool copies next member)
    (nextLe : next ≤ bound)
    (same : ∀ number < next, other.home number = copies.home number) :
    Sourced pool other bound member where
  distinct := sourced.distinct
  spotted := sourced.spotted
  taken info isInfo number answers :=
    Nat.lt_of_lt_of_le (sourced.taken info isInfo number answers) nextLe
  derived info isInfo := by
    obtain ⟨own, origin, descends⟩ := sourced.derived info isInfo
    exact ⟨own, origin, descends.of_home_eq fun number answers =>
      same number (sourced.taken info isInfo number answers)⟩
  copied := sourced.copied

end Sourced

namespace Injecting

variable
    {pool : Pool}
    {copies : Renumbering}
    {supply : IdSupply}
    {own member : Declaration}

/-- The nodes of a copy go back to what those of the member go back to. -/
theorem derived_copyOf
    (sourced : Sourced pool copies supply.next member)
    (ancestorName : String) :
    (copyOf ancestorName supply member).Everywhere
      (Derived pool (copies ++ (member.renumber supply).2.1)) := by
  have numbering := Declaration.numbersNext_assign member supply
  have renamed {info : Info} (isInfo : info ∈ member.infos) {own origin : Info}
      (descends : Descends pool copies info own origin) :=
    descends.renamed numbering (sourced.taken info isInfo) sourced.distinct
      sourced.ids_lt (Declaration.id_mem_ids_of_info isInfo)
      (sourced.copied info.id (Declaration.id_mem_ids_of_info isInfo))
  intro info isInfo
  rw [Declaration.infos_eq_cons_ownedInfos, ownedInfos_copyOf sourced.distinct] at isInfo
  rw [Declaration.copies_renumber sourced.distinct]
  rcases List.mem_cons.mp isInfo with rfl | isOwned
  · have isTop := member.info_mem_infos
    obtain ⟨own, origin, descends⟩ := sourced.derived member.info isTop
    have copyId : (copyOf ancestorName supply member).id =
        (member.assign supply).2.1.apply member.id := by
      rw [copyOf, id_stamp, Declaration.renumber_eq_rename sourced.distinct,
        Declaration.id, Declaration.info_rename]
      rfl
    exact ⟨own, origin, (descends.later numbering (sourced.taken _ isTop)).placed
      (sourced.copied member.id member.id_mem_ids) (copiedFrom_copyOf ancestorName supply member) (inheritedFrom_stamp _ _)
      (target_originOf ancestorName member) copyId descends.own_mem
      (renamed isTop descends).own_id descends.name_own descends.filled⟩
  · obtain ⟨one, isOne, rfl⟩ := List.mem_map.mp isOwned
    have inMember := member.ownedInfos_subset_infos isOne
    obtain ⟨own, origin, descends⟩ := sourced.derived one inMember
    exact ⟨own, origin, renamed inMember descends⟩

/-- What fills in a member stands for what that stood for, and says what it copies. -/
theorem derived_fillingOf
    (sourced : Sourced pool copies supply.next member)
    (ownTaken : ∀ number, own.info.Answers number → number < supply.next)
    (ownDerived : Derived pool copies own.info)
    (undocumented : own.info.hasSummary = false)
    (ownSpotted : own.info.sources ≠ [])
    (sameName : own.name = member.name)
    (ancestorName : String) :
    (fillingOf ancestorName supply own member).Everywhere
      (Derived pool (copies ++ ((renamedTo own member).renumberOwned supply).2.1)) := by
  have numbering := Declaration.numbersNext_assignOwned (renamedTo own member) supply
  have distinct := nodup_ownedIds_renamedTo sourced.distinct own
  intro info isInfo
  rw [Declaration.infos_eq_cons_ownedInfos, ownedInfos_fillingOf sourced.distinct]
    at isInfo
  rw [Declaration.copies_renumberOwned distinct]
  rcases List.mem_cons.mp isInfo with rfl | isOwned
  · have isTop := member.info_mem_infos
    obtain ⟨memberOwn, origin, descends⟩ := sourced.derived member.info isTop
    obtain ⟨standsFor, _, ownDescends⟩ := ownDerived
    have standsStill := ownDescends.later numbering ownTaken
    exact ⟨standsFor, origin, (descends.later numbering (sourced.taken _ isTop)).placed
      (sourced.copied member.id member.id_mem_ids) (copiedFrom_fillingOf ancestorName supply own member) (inheritedFrom_stamp _ _)
      (target_originOf ancestorName member) (id_fillingOf ancestorName supply own member)
      standsStill.own_mem standsStill.own_id (ownDescends.name_own.trans sameName)
      (.inr (ownDescends.undocumented_own undocumented ownSpotted))⟩
  · obtain ⟨one, isOne, rfl⟩ := List.mem_map.mp isOwned
    have inMember := member.ownedInfos_subset_infos isOne
    obtain ⟨own, origin, descends⟩ := sourced.derived one inMember
    refine ⟨own, origin, descends.renamed numbering (sourced.taken one inMember) distinct
      ?_ ?_ (sourced.copied one.id (Declaration.id_mem_ids_of_info inMember))⟩
    · intro number isNumber
      rw [ownedIds_renamedTo] at isNumber
      exact sourced.ids_lt number (member.ownedIds_subset_ids isNumber)
    · rw [ownedIds_renamedTo, Declaration.ownedIds_eq_map_ownedInfos]
      exact List.mem_map_of_mem isOne

/-- That the numbers of copies that were added are the next ones of a supply. -/
def CopiesNext
    (supply rest : IdSupply)
    (copies added : Renumbering) :
    Prop :=
  ∃ old new numbers, added = copies ++ numbers ∧
    Declaration.NumbersNext supply rest old new numbers

namespace CopiesNext

variable
    {supply middle rest : IdSupply}
    {copies between added : Renumbering}

theorem refl (supply : IdSupply) (copies : Renumbering) :
    CopiesNext supply supply copies copies :=
  ⟨[], [], [], (List.append_nil copies).symm, .nil supply⟩

theorem trans
    (first : CopiesNext supply middle copies between)
    (second : CopiesNext middle rest between added) :
    CopiesNext supply rest copies added := by
  obtain ⟨_, _, _, rfl, firstNext⟩ := first
  obtain ⟨_, _, _, rfl, secondNext⟩ := second
  exact ⟨_, _, _, List.append_assoc _ _ _, firstNext.append secondNext⟩

theorem next_le
    (next : CopiesNext supply rest copies added) :
    supply.next ≤ rest.next := by
  obtain ⟨_, _, _, -, numbering⟩ := next
  exact numbering.covers.le

/-- Copies that are added leave what was there at home. -/
theorem home_eq
    (next : CopiesNext supply rest copies added)
    {number : DeclId}
    (isTaken : number < supply.next) :
    added.home number = copies.home number := by
  obtain ⟨_, _, _, rfl, numbering⟩ := next
  rw [Renumbering.home_append, numbering.home_of_lt isTaken]

/-- What is no copy that was added is where it was. -/
theorem derived
    {pool : Pool}
    {info : Info}
    (next : CopiesNext supply rest copies added)
    (taken : ∀ number, info.Answers number → number < supply.next)
    (derived : Derived pool copies info) :
    Derived pool added info := by
  obtain ⟨own, origin, descends⟩ := derived
  exact ⟨own, origin, descends.of_home_eq fun number answers =>
    next.home_eq (taken number answers)⟩

end CopiesNext

/-- Entering a member numbers copies with the next numbers. -/
theorem Enters.copiesNext
    {ancestorName : String}
    {before after : Injecting}
    (enters : Enters ancestorName before member after)
    (distinct : member.ids.Nodup) :
    CopiesNext before.supply after.supply before.copies after.copies := by
  cases enters with
  | halted _ same => exact same ▸ .refl _ _
  | stands _ _ _ _ _ _ same => exact same ▸ .refl _ _
  | refused _ _ _ same =>
      subst same
      exact .refl _ _
  | appends _ _ _ _ _ _ supply_eq _ copies_eq =>
      have numbering := Declaration.numbersNext_assign member before.supply
      rw [Declaration.copies_renumber distinct] at copies_eq
      exact ⟨_, _, _, copies_eq, supply_eq ▸ numbering⟩
  | fills _ own _ _ _ _ _ _ supply_eq _ copies_eq =>
      have numbering :=
        Declaration.numbersNext_assignOwned (renamedTo own member) before.supply
      rw [Declaration.copies_renumberOwned (nodup_ownedIds_renamedTo distinct own)]
        at copies_eq
      exact ⟨_, _, _, copies_eq, supply_eq ▸ numbering⟩

/-- The members of a class were found somewhere, also after one is entered. -/
theorem Enters.spotted
    {ancestorName : String}
    {before after : Injecting}
    (enters : Enters ancestorName before member after)
    (isSpotted : member.info.sources ≠ [])
    (spotted : ∀ child ∈ before.target.children, child.info.sources ≠ []) :
    ∀ child ∈ after.target.children, child.info.sources ≠ [] := by
  have copySpotted {copy : Declaration} (copied : CopiedFrom member.info copy.info) :
      copy.info.sources ≠ [] :=
    (Echoes.of_copiedFrom copied).sources_eq ▸ isSpotted
  cases enters with
  | halted _ same => exact same ▸ spotted
  | stands _ _ _ _ _ _ same => exact same ▸ spotted
  | refused _ _ _ same => exact same ▸ spotted
  | appends _ _ _ _ _ children_eq =>
      rw [children_eq]
      exact List.forall_mem_append.mpr ⟨spotted, List.forall_mem_singleton.mpr
        (copySpotted (copiedFrom_copyOf _ _ member))⟩
  | fills _ own _ _ _ _ _ children_eq =>
      intro child isChild
      rw [children_eq] at isChild
      rcases List.mem_or_eq_of_mem_set isChild with wasChild | rfl
      · exact spotted child wasChild
      · exact copySpotted (copiedFrom_fillingOf _ _ own member)

/-- That all nodes of a class are accounted for after some members were entered. -/
structure Accounts
    (known : List Info)
    (pool : Pool)
    (start now : Injecting) :
    Prop where
  next : CopiesNext start.supply now.supply start.copies now.copies
  ids_lt : ∀ number ∈ now.target.ids, number < now.supply.next
  spotted : ∀ child ∈ now.target.children, child.info.sources ≠ []
  traced : now.target.Everywhere (Traced known start.supply.next)
  derived : now.target.Everywhere (Derived pool now.copies)

namespace Accounts

variable
    {known : List Info}
    {start before after : Injecting}
    {ancestorName : String}

/-- The numbers that stand for nodes of the class are taken. -/
theorem taken
    (accounts : Accounts known pool start before)
    (knownTaken : ∀ old ∈ known, ∀ number, old.Answers number →
      number < start.supply.next)
    {info : Info}
    (isInfo : info ∈ before.target.infos)
    (number : DeclId)
    (answers : info.Answers number) :
    number < before.supply.next := by
  rcases (accounts.traced info isInfo).answers number answers with
      ⟨rfl, -⟩ | ⟨old, isOld, oldAnswers, -⟩
  · exact accounts.ids_lt info.id (Declaration.id_mem_ids_of_info isInfo)
  · exact Nat.lt_of_lt_of_le (knownTaken old isOld number oldAnswers)
      accounts.next.next_le

/-- Entering a member keeps all nodes of the class accounted for. -/
theorem enters
    (accounts : Accounts known pool start before)
    (enters : Enters ancestorName before member after)
    (drawn : Drawn known member)
    (sourced : Sourced pool start.copies start.supply.next member)
    (knownTaken : ∀ old ∈ known, ∀ number, old.Answers number →
      number < start.supply.next) :
    Accounts known pool start after := by
  have next := enters.copiesNext sourced.distinct
  have sourcedNow : Sourced pool before.copies before.supply.next member :=
    sourced.later accounts.next.next_le fun _ => accounts.next.home_eq
  have derivedBefore : before.target.Everywhere (Derived pool after.copies) :=
    fun info isInfo => next.derived (accounts.taken knownTaken isInfo)
      (accounts.derived info isInfo)
  obtain ⟨-, inChildren, -⟩ := Declaration.everywhere_iff.mp derivedBefore
  refine
    { next := accounts.next.trans next
      ids_lt := ?_
      spotted := enters.spotted sourced.spotted accounts.spotted
      traced := enters.traced drawn accounts.next.next_le accounts.traced
      derived := ?_ }
  · intro number isNumber
    rcases enters.covers_target.mem_or_taken isNumber with wasNumber | isTaken
    · exact Nat.lt_of_lt_of_le (accounts.ids_lt number wasNumber) next.next_le
    · exact isTaken.2
  · cases enters with
    | halted _ same => exact same ▸ accounts.derived
    | stands _ _ _ _ _ _ same => exact same ▸ accounts.derived
    | refused _ _ _ same =>
        subst same
        exact accounts.derived
    | appends _ _ _ _ regrouped children_eq _ _ copies_eq =>
        have copyDerived := derived_copyOf sourcedNow ancestorName
        rw [← copies_eq] at copyDerived
        refine regrouped.everywhere (relinkable_derived _ _) derivedBefore ?_
        rw [children_eq]
        exact List.forall_mem_append.mpr
          ⟨inChildren, List.forall_mem_singleton.mpr copyDerived⟩
    | fills position own _ first found undocumented regrouped children_eq _ _
        copies_eq =>
        obtain ⟨other, otherFound, sameName⟩ := exists_of_memberPosition? first
        obtain rfl : own = other := Option.some.inj (found.symm.trans otherFound)
        have isChild := List.mem_of_getElem? found
        have isOwn : own.info ∈ before.target.infos :=
          Declaration.infos_subset_of_child isChild own.info_mem_infos
        have fillingDerived := derived_fillingOf sourcedNow
          (accounts.taken knownTaken isOwn) (accounts.derived own.info isOwn)
          undocumented (accounts.spotted own isChild) sameName ancestorName
        rw [← copies_eq] at fillingDerived
        refine regrouped.everywhere (relinkable_derived _ _) derivedBefore ?_
        intro child isChild
        rw [children_eq] at isChild
        rcases List.mem_or_eq_of_mem_set isChild with wasChild | rfl
        · exact inChildren child wasChild
        · exact fillingDerived

end Accounts

end Injecting

/-! ## Following edges -/

namespace Inheriting

variable
    {pool : Pool}
    {paths : List (DeclId × Path)}
    {before : Inheriting}
    {edge : Edge}

/-- All nodes of a class that has received members are accounted for. -/
theorem accounts_received
    {ancestorPath descendantPath : Path}
    {ancestor descendant : Declaration}
    (attested : Attested before.supply before.root)
    (derived : before.root.Everywhere (Derived pool before.copies))
    (below : before.root.PresentsBelow (OfMembers Spotted))
    (uncopied : pool.uncopied ⊆ before.root.topIds)
    (inner : InnerEnds paths edge)
    (meets : Meets paths before.root edge ancestorPath descendantPath
      ancestor descendant) :
    Injecting.Accounts before.root.infos pool (opening before edge ancestor descendant)
      (received before edge ancestor descendant) := by
  have drawn := drawn_of_meets attested meets
  obtain ⟨ancestorInner, descendantInner⟩ := meets.inner inner
  have spotted {path : Path} {found : Declaration} (isInner : path ≠ [])
      (leads : before.root.descendant? path = some found) :
      ∀ child ∈ found.children, child.info.sources ≠ [] := by
    have presents :=
      (Declaration.presentsThroughout_iff.mp (below.descendant? isInner leads)).1
    exact fun child isChild => presents child.info (List.mem_map_of_mem isChild)
  refine Injecting.foldl_inject_induction
    (motive := Injecting.Accounts before.root.infos pool
      (opening before edge ancestor descendant)) ?_ ?_
  · refine
      { next := .refl _ _
        ids_lt := ?_
        spotted := ?_
        traced := traced_opening attested meets
        derived := everywhere_opening (relinkable_derived _ _)
          (derived.descendant? meets.descendant_found) }
    · intro number isNumber
      rw [opening, linkTo, Declaration.ids_updateInfo descendant rfl] at isNumber
      exact attested.numbered.below number
        (Declaration.ids_subset_of_descendant? meets.descendant_found isNumber)
    · rw [children_opening]
      exact spotted descendantInner meets.descendant_found
  · intro between after member isMember enters accounts
    have drawnMember := drawn member isMember
    exact accounts.enters enters drawnMember
      { distinct := drawnMember.distinct
        spotted := spotted ancestorInner meets.ancestor_found member isMember
        taken := fun info isInfo =>
          attested.taken info (drawnMember.included isInfo)
        derived := fun info isInfo => derived info (drawnMember.included isInfo)
        copied := fun number isNumber isUncopied =>
          Declaration.not_mem_topIds attested.numbered.distinct ancestorInner
            meets.ancestor_found (Declaration.ids_subset_ownedIds isMember isNumber)
            (uncopied isUncopied) }
      attested.taken

/-- What an edge keeps: copies get the next numbers, and all nodes go back to a pool. -/
theorem derived_propagate
    (attested : Attested before.supply before.root)
    (derived : before.root.Everywhere (Derived pool before.copies))
    (below : before.root.PresentsBelow (OfMembers Spotted))
    (uncopied : pool.uncopied ⊆ before.root.topIds)
    (inner : InnerEnds paths edge) :
    Injecting.CopiesNext before.supply (propagate paths before edge).supply
        before.copies (propagate paths before edge).copies ∧
      (propagate paths before edge).root.Everywhere
        (Derived pool (propagate paths before edge).copies) := by
  have flows := flows_propagate paths before edge
  have followed {ancestorPath descendantPath : Path} {ancestor descendant : Declaration}
      (running : before.failure = none)
      (meets : Meets paths before.root edge ancestorPath descendantPath
        ancestor descendant)
      (supply_eq : (propagate paths before edge).supply =
        (received before edge ancestor descendant).supply) :
      Injecting.CopiesNext before.supply (propagate paths before edge).supply
          before.copies (propagate paths before edge).copies ∧
        (propagate paths before edge).root.Everywhere
          (Derived pool (propagate paths before edge).copies) := by
    have accounts := accounts_received attested derived below uncopied inner meets
    rw [supply_eq, copies_propagate running meets]
    refine ⟨accounts.next, flows.everywhere_of_received (relinkable_derived _ _) ?_ ?_⟩
    · exact fun info isInfo =>
        accounts.next.derived (attested.taken info isInfo) (derived info isInfo)
    · intro _ _ _ _ other
      obtain ⟨-, -, rfl, rfl⟩ := meets.unique other
      exact accounts.derived
  cases flows with
  | halted _ same => exact same.symm ▸ ⟨.refl _ _, derived⟩
  | skipped _ _ same => exact same.symm ▸ ⟨.refl _ _, derived⟩
  | fails _ _ _ _ _ running meets _ _ supply_eq => exact followed running meets supply_eq
  | flows _ _ _ _ running meets _ _ supply_eq => exact followed running meets supply_eq

end Inheriting

namespace Hierarchy

/--
In a run copies get the numbers from the supply on, in order, and every node goes back
to nodes of the tree before.
-/
theorem derived_flowAlong
    {root : Declaration}
    {supply : IdSupply}
    {edges : List Edge}
    (numbered : NumberedFrom supply root)
    (own : root.Everywhere fun info => info.inheritedFrom = none)
    (spotted : root.PresentsBelow (OfMembers Spotted))
    (inner : ∀ edge ∈ edges, Inheriting.InnerEnds root.childPaths edge) :
    Injecting.CopiesNext supply (flowAlong root supply edges).supply []
        (flowAlong root supply edges).copies ∧
      (flowAlong root supply edges).root.Everywhere
        (Derived ⟨root.infos, root.topIds⟩ (flowAlong root supply edges).copies) := by
  induction edges using List.reverseRecOn with
  | nil =>
      exact ⟨.refl _ _, fun info isInfo =>
        ⟨info, info, .self isInfo (own info isInfo)⟩⟩
  | append_singleton earlier edge inductionHypothesis =>
      obtain ⟨earlierInner, edgeInner⟩ := List.forall_mem_append.mp inner
      obtain ⟨next, derived⟩ := inductionHypothesis earlierInner
      rw [flowAlong_concat]
      have sameTop : (flowAlong root supply earlier).root.topIds = root.topIds :=
        (sameTop_flowAlong earlierInner).topIds_eq
      obtain ⟨nextToo, derivedToo⟩ := Inheriting.derived_propagate
        (attested_flowAlong (.of_own numbered own) earlier) derived
        (presentsBelow_flowAlong heritable_spotted numbered earlierInner spotted)
        (by rw [sameTop]; exact List.Subset.refl _)
        (List.forall_mem_singleton.mp edgeInner)
      exact ⟨next.trans nextToo, derivedToo⟩

end Hierarchy

end ApiTree.Decl
