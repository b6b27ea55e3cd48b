import ApiTree.Proofs.Decl.Symbols
import ApiTree.Proofs.Hierarchy.Relinking
import ApiTree.Proofs.Hierarchy.Twins

namespace ApiTree.Decl

/-!
# Numbers that stand for declarations

In groups a declaration is listed under its own number or under that of what it
was inherited from.  Copies keep names, and a member is filled in by one of the same
name.  So a number may come to stand for several declarations of a tree, but they
all have one name.
-/

/-- That a number stands for a declaration: its own, or that of its origin. -/
def Info.Answers
    (info : Info)
    (number : DeclId) :
    Prop :=
  info.id = number ∨ info.inheritedFrom.bind (·.target) = some number

instance (info : Info) (number : DeclId) : Decidable (info.Answers number) :=
  inferInstanceAs (Decidable (_ ∨ _))

/-- That the origin of a declaration, if it has one, is known by a number. -/
def Info.Targeted (info : Info) : Prop :=
  ∀ link, info.inheritedFrom = some link → ∃ number, link.target = some number

/-- What a number stands for does not depend on groups and links between classes. -/
theorem Relinked.answers_iff
    {before after : Info}
    (relinked : Relinked before after)
    {number : DeclId} :
    after.Answers number ↔ before.Answers number := by
  rw [Info.Answers, Info.Answers, relinked.id_eq, relinked.inheritedFrom_eq]

theorem relinkable_targeted : Relinkable Info.Targeted := by
  intro before after relinked targeted
  rw [Info.Targeted, relinked.inheritedFrom_eq]
  exact targeted

/--
Where a node comes from: what stands for it is a number that was free, its own, or
stood for a node of the same name among some given ones.
-/
structure Traced
    (pool : List Info)
    (next : Nat)
    (info : Info) :
    Prop where
  targeted : info.Targeted
  answers : ∀ number, info.Answers number →
    (number = info.id ∧ next ≤ number) ∨
      ∃ old ∈ pool, old.Answers number ∧ old.name = info.name

theorem traced_of_mem
    {pool : List Info}
    {info : Info}
    (isMember : info ∈ pool)
    (targeted : info.Targeted)
    (next : Nat) :
    Traced pool next info :=
  ⟨targeted, fun _ answers => .inr ⟨info, isMember, answers, rfl⟩⟩

theorem relinkable_traced (pool : List Info) (next : Nat) :
    Relinkable (Traced pool next) := by
  intro before after relinked traced
  refine ⟨relinkable_targeted _ _ relinked traced.targeted, ?_⟩
  intro number answers
  rw [relinked.answers_iff] at answers
  rw [relinked.id_eq, relinked.name_eq]
  exact traced.answers number answers

/-- A tree whose numbers, also those of origins, stand for nodes of one name each. -/
structure Attested
    (supply : IdSupply)
    (root : Declaration) :
    Prop where
  numbered : NumberedFrom supply root
  targeted : root.Everywhere Info.Targeted
  taken : ∀ info ∈ root.infos, ∀ number, info.Answers number →
    number < supply.next
  alike : ∀ first ∈ root.infos, ∀ second ∈ root.infos, ∀ number,
    first.Answers number → second.Answers number → first.name = second.name

namespace Attested

variable
    {supply later : IdSupply}
    {root changed : Declaration}

/-- In a tree without inherited members a number stands for the node that has it. -/
theorem of_own
    (numbered : NumberedFrom supply root)
    (own : root.Everywhere fun info => info.inheritedFrom = none) :
    Attested supply root := by
  have isNumber {info : Info} (isInfo : info ∈ root.infos) {number : DeclId}
      (answers : info.Answers number) : info.id = number := by
    rcases answers with isId | isOrigin
    · exact isId
    · rw [own info isInfo] at isOrigin
      cases isOrigin
  have distinct := numbered.distinct
  rw [Declaration.ids_eq_map_infos] at distinct
  refine
    { numbered := numbered
      targeted := ?_
      taken := ?_
      alike := ?_ }
  · intro info isInfo link isLink
    rw [own info isInfo] at isLink
    cases isLink
  · intro info isInfo number answers
    rw [← isNumber isInfo answers]
    exact numbered.below info.id (Declaration.id_mem_ids_of_info isInfo)
  · intro first isFirst second isSecond number firstAnswers secondAnswers
    have sameId : first.id = second.id :=
      (isNumber isFirst firstAnswers).trans
        (isNumber isSecond secondAnswers).symm
    rw [List.inj_on_of_nodup_map distinct isFirst isSecond sameId]

/-- A node of the tree has the name of every traced one that a number stands for too. -/
theorem name_eq
    (attested : Attested supply root)
    {old info : Info}
    (isOld : old ∈ root.infos)
    (traced : Traced root.infos supply.next info)
    {number : DeclId}
    (oldAnswers : old.Answers number)
    (answers : info.Answers number) :
    old.name = info.name := by
  rcases traced.answers number answers with
      ⟨-, isNew⟩ | ⟨other, isOther, otherAnswers, sameName⟩
  · exact (Nat.not_le_of_lt (attested.taken old isOld number oldAnswers)
      isNew).elim
  · rw [← sameName]
    exact attested.alike old isOld other isOther number oldAnswers otherAnswers

/-- Two traced nodes have one name if a number stands for both. -/
theorem name_eq_of_traced
    (attested : Attested supply root)
    {first second : Info}
    (firstTraced : Traced root.infos supply.next first)
    (secondTraced : Traced root.infos supply.next second)
    (sameNode : first.id = second.id → first.name = second.name)
    {number : DeclId}
    (firstAnswers : first.Answers number)
    (secondAnswers : second.Answers number) :
    first.name = second.name := by
  rcases firstTraced.answers number firstAnswers with
      ⟨isFirst, firstNew⟩ | ⟨old, isOld, oldAnswers, sameName⟩
  · rcases secondTraced.answers number secondAnswers with
        ⟨isSecond, -⟩ | ⟨old, isOld, oldAnswers, -⟩
    · exact sameNode (isFirst.symm.trans isSecond)
    · exact (Nat.not_le_of_lt (attested.taken old isOld number oldAnswers)
        firstNew).elim
  · rw [← sameName]
    exact attested.name_eq isOld secondTraced oldAnswers secondAnswers

/-- A tree of traced nodes is attested. -/
theorem of_traced
    (attested : Attested supply root)
    (numbered : NumberedFrom later changed)
    (nextLe : supply.next ≤ later.next)
    (traced : changed.Everywhere (Traced root.infos supply.next)) :
    Attested later changed := by
  have distinct := numbered.distinct
  rw [Declaration.ids_eq_map_infos] at distinct
  refine
    { numbered := numbered
      targeted := fun info isInfo => (traced info isInfo).targeted
      taken := ?_
      alike := ?_ }
  · intro info isInfo number answers
    rcases (traced info isInfo).answers number answers with
        ⟨isId, -⟩ | ⟨old, isOld, oldAnswers, -⟩
    · exact isId ▸ numbered.below info.id (Declaration.id_mem_ids_of_info isInfo)
    · exact Nat.lt_of_lt_of_le (attested.taken old isOld number oldAnswers)
        nextLe
  · intro first isFirst second isSecond number firstAnswers secondAnswers
    refine attested.name_eq_of_traced (traced first isFirst)
      (traced second isSecond) ?_ firstAnswers secondAnswers
    intro sameId
    rw [List.inj_on_of_nodup_map distinct isFirst isSecond sameId]

end Attested

/-! ## Copies -/

namespace Injecting

variable
    {pool : List Info}
    {next : Nat}
    {supply : IdSupply}
    {own member : Declaration}
    {ancestorName : String}

/-- The number that stands for a member in groups stands for it. -/
theorem answers_originNumber?
    {number : DeclId}
    (isOrigin : originNumber? member = some number) :
    member.info.Answers number := by
  unfold originNumber? at isOrigin
  split at isOrigin
  · rename_i origin inherited
    exact .inr (by simpa [inherited] using isOrigin)
  · exact .inl (Option.some.inj isOrigin)

theorem exists_originNumber?
    (targeted : member.info.Targeted) :
    ∃ number, originNumber? member = some number := by
  unfold originNumber?
  split
  · rename_i origin inherited
    exact targeted origin inherited
  · exact ⟨_, rfl⟩

/-- A renamed node below a copied one is new, or its origin stands for it. -/
theorem traced_renameInfo
    {rest : IdSupply}
    {old new : List DeclId}
    {numbers : Renumbering}
    (numbering : Declaration.NumbersNext supply rest old new numbers)
    (distinct : old.Nodup)
    (nextLe : next ≤ supply.next)
    {info : Info}
    (isOld : info.id ∈ old)
    (isMember : info ∈ pool)
    (targeted : info.Targeted) :
    Traced pool next (Declaration.renameInfo numbers.apply info) := by
  refine ⟨targeted, ?_⟩
  rintro number (isId | isOrigin)
  · refine .inl ⟨isId.symm, ?_⟩
    rw [← isId]
    exact Nat.le_trans nextLe (numbering.le_apply distinct isOld)
  · exact .inr ⟨info, isMember, .inr isOrigin, rfl⟩

/-- A copy is traced to the member, whose origin it has. -/
theorem traced_copyOf
    (distinct : member.ids.Nodup)
    (nextLe : next ≤ supply.next)
    (included : member.infos ⊆ pool)
    (targeted : member.Everywhere Info.Targeted)
    (ancestorName : String) :
    (copyOf ancestorName supply member).Everywhere (Traced pool next) := by
  have numbering := Declaration.numbersNext_assign member supply
  have renamed : (member.renumber supply).1.Everywhere (Traced pool next) := by
    rw [Declaration.renumber_eq_rename distinct]
    refine Declaration.everywhere_mapInfo_iff.mpr fun info isInfo => ?_
    exact traced_renameInfo numbering distinct nextLe
      (Declaration.id_mem_ids_of_info isInfo) (included isInfo)
      (targeted info isInfo)
  refine renamed.updateInfo ?_
  have atTop := renamed _ (Declaration.info_mem_infos _)
  have isOld := included member.info_mem_infos
  obtain ⟨number, isOrigin⟩ :=
    exists_originNumber? (targeted _ member.info_mem_infos)
  have sameName : (member.renumber supply).1.info.name = member.info.name := by
    rw [Declaration.renumber_eq_rename distinct, Declaration.info_rename]
    rfl
  refine ⟨?_, ?_⟩
  · rintro link ⟨⟩
    exact ⟨number, (target_originOf ancestorName member).trans isOrigin⟩
  · rintro other (isId | isTarget)
    · exact atTop.answers other (.inl isId)
    · refine .inr ⟨member.info, isOld, answers_originNumber? ?_, sameName.symm⟩
      rw [← target_originOf ancestorName]
      exact isTarget

/-- What fills in a member keeps its number, and has the origin of what it copies. -/
theorem traced_fillingOf
    (distinct : member.ids.Nodup)
    (nextLe : next ≤ supply.next)
    (included : member.infos ⊆ pool)
    (targeted : member.Everywhere Info.Targeted)
    (ownTraced : Traced pool next own.info)
    (sameName : own.name = member.name)
    (ancestorName : String) :
    (fillingOf ancestorName supply own member).Everywhere (Traced pool next) := by
  have numbering :=
    Declaration.numbersNext_assignOwned (renamedTo own member) supply
  have ownedDistinct := nodup_ownedIds_renamedTo distinct own
  obtain ⟨origin, isOrigin⟩ :=
    exists_originNumber? (targeted _ member.info_mem_infos)
  intro info isInfo
  rw [Declaration.infos_eq_cons_ownedInfos] at isInfo
  rcases List.mem_cons.mp isInfo with rfl | isOwned
  · have isName : (fillingOf ancestorName supply own member).info.name =
        member.info.name :=
      name_fillingOf ancestorName supply own member
    have isId : (fillingOf ancestorName supply own member).info.id =
        own.info.id :=
      id_fillingOf ancestorName supply own member
    have isInherited : (fillingOf ancestorName supply own member).info.inheritedFrom =
        some (originOf ancestorName member) :=
      inheritedFrom_stamp _ _
    refine ⟨?_, ?_⟩
    · intro link isLink
      obtain rfl := Option.some.inj (isInherited.symm.trans isLink)
      exact ⟨origin, (target_originOf ancestorName member).trans isOrigin⟩
    · rw [isId, isName, ← show own.info.name = member.info.name from sameName]
      rintro number (isOwn | isTarget)
      · exact ownTraced.answers number (.inl (isId.symm.trans isOwn))
      · refine .inr ⟨member.info, included member.info_mem_infos,
          answers_originNumber? ?_, sameName.symm⟩
        rw [isInherited] at isTarget
        rw [← target_originOf ancestorName]
        exact isTarget
  · rw [ownedInfos_fillingOf distinct] at isOwned
    obtain ⟨one, isOne, rfl⟩ := List.mem_map.mp isOwned
    have inMember := member.ownedInfos_subset_infos isOne
    refine traced_renameInfo numbering ownedDistinct nextLe ?_
      (included inMember) (targeted one inMember)
    rw [ownedIds_renamedTo, Declaration.ownedIds_eq_map_ownedInfos]
    exact List.mem_map_of_mem isOne

/-- What members are copied from: nodes that are known, each with one number. -/
structure Drawn
    (pool : List Info)
    (member : Declaration) :
    Prop where
  distinct : member.ids.Nodup
  included : member.infos ⊆ pool
  targeted : member.Everywhere Info.Targeted

/-- Entering a member keeps all nodes of a class traced. -/
theorem Enters.traced
    {before after : Injecting}
    (enters : Enters ancestorName before member after)
    (drawn : Drawn pool member)
    (nextLe : next ≤ before.supply.next)
    (traced : before.target.Everywhere (Traced pool next)) :
    after.target.Everywhere (Traced pool next) := by
  obtain ⟨-, inChildren, -⟩ := Declaration.everywhere_iff.mp traced
  cases enters with
  | halted _ same => exact same ▸ traced
  | stands _ _ _ _ _ _ same => exact same ▸ traced
  | refused _ _ _ same => exact same ▸ traced
  | appends _ _ _ _ regrouped children_eq =>
      refine regrouped.everywhere (relinkable_traced pool next) traced ?_
      rw [children_eq]
      exact List.forall_mem_append.mpr
        ⟨inChildren, List.forall_mem_singleton.mpr
          (traced_copyOf drawn.distinct nextLe drawn.included drawn.targeted _)⟩
  | fills position own _ first found _ regrouped children_eq =>
      obtain ⟨other, otherFound, sameName⟩ := exists_of_memberPosition? first
      obtain rfl : own = other :=
        Option.some.inj (found.symm.trans otherFound)
      refine regrouped.everywhere (relinkable_traced pool next) traced ?_
      intro child isChild
      rw [children_eq] at isChild
      rcases List.mem_or_eq_of_mem_set isChild with wasChild | rfl
      · exact inChildren child wasChild
      · exact traced_fillingOf drawn.distinct nextLe drawn.included
          drawn.targeted
          (inChildren own (List.mem_of_getElem? found) _ own.info_mem_infos)
          sameName _

end Injecting

namespace Inheriting

variable
    {paths : List (DeclId × Path)}
    {before after : Inheriting}
    {edge : Edge}

/-- The members of a class in an attested tree can be copied. -/
theorem drawn_of_meets
    {ancestorPath descendantPath : Path}
    {ancestor descendant : Declaration}
    (attested : Attested before.supply before.root)
    (meets : Meets paths before.root edge ancestorPath descendantPath
      ancestor descendant) :
    ∀ member ∈ ancestor.children,
      Injecting.Drawn before.root.infos member := by
  intro member isMember
  have ancestorDistinct := Declaration.nodup_ids_of_descendant?
    attested.numbered.distinct meets.ancestor_found
  have included := List.Subset.trans (Declaration.infos_subset_of_child isMember)
    (Declaration.infos_subset_of_descendant? meets.ancestor_found)
  exact
    { distinct := Declaration.nodup_ids_of_child ancestorDistinct isMember
      included := included
      targeted := fun info isInfo => attested.targeted info (included isInfo) }

theorem traced_opening
    {ancestorPath descendantPath : Path}
    {ancestor descendant : Declaration}
    (attested : Attested before.supply before.root)
    (meets : Meets paths before.root edge ancestorPath descendantPath
      ancestor descendant) :
    (opening before edge ancestor descendant).target.Everywhere
      (Traced before.root.infos before.supply.next) :=
  everywhere_opening (relinkable_traced _ _) fun info isInfo =>
    traced_of_mem
      (Declaration.infos_subset_of_descendant? meets.descendant_found isInfo)
      (attested.targeted.descendant? meets.descendant_found info isInfo) _

/-- An edge keeps a tree attested. -/
theorem Flows.attested
    (flows : Flows paths before edge after)
    (attested : Attested before.supply before.root) :
    Attested after.supply after.root := by
  have covers := flows.covers_root
  refine attested.of_traced (attested.numbered.of_covers covers) covers.le ?_
  refine flows.everywhere_of_received (relinkable_traced _ _) ?_ ?_
  · exact fun info isInfo =>
      traced_of_mem isInfo (attested.targeted info isInfo) _
  · intro _ _ ancestor descendant meets
    refine (Injecting.foldl_inject_induction
      (motive := fun injecting =>
        before.supply.next ≤ injecting.supply.next ∧
          injecting.target.Everywhere
            (Traced before.root.infos before.supply.next)) ?_ ?_).2
    · exact ⟨Nat.le_refl _, traced_opening attested meets⟩
    · rintro between afterwards member isMember enters ⟨nextLe, traced⟩
      exact ⟨Nat.le_trans nextLe enters.covers_target.le,
        enters.traced (drawn_of_meets attested meets member isMember) nextLe
          traced⟩

end Inheriting

namespace Hierarchy

/-- A run keeps a tree attested. -/
theorem attested_flowAlong
    {root : Declaration}
    {supply : IdSupply}
    (attested : Attested supply root)
    (edges : List Edge) :
    Attested (flowAlong root supply edges).supply
      (flowAlong root supply edges).root :=
  flowAlong_induction
    (motive := fun now => Attested now.supply now.root)
    attested fun _ _ _ _ flows => flows.attested

end Hierarchy

end ApiTree.Decl
