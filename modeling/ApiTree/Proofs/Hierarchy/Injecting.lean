import ApiTree.Decl.Hierarchy
import ApiTree.Proofs.Decl.Numbering

namespace ApiTree.Decl

/-!
# Entering members into a class

Entering one member of an ancestor either leaves the class as it is, appends a
copy, or fills in the first member of the same name.  What the class owns apart
from its members stays, and so does its information apart from its groups.  Each
later fact about members that flow is read off these cases.
-/

/-- A declaration that differs from another only in its members and groups. -/
structure Regrouped (before after : Declaration) : Prop where
  info_eq : ∃ groups, after.info = { before.info with groups := groups }
  signatures_eq : after.signatures = before.signatures
  parameters_eq : after.parameters = before.parameters

namespace Regrouped

theorem refl (declaration : Declaration) :
    Regrouped declaration declaration :=
  ⟨⟨declaration.info.groups, rfl⟩, rfl, rfl⟩

theorem trans
    {first second third : Declaration}
    (firstChange : Regrouped first second)
    (secondChange : Regrouped second third) :
    Regrouped first third := by
  obtain ⟨⟨firstGroups, firstInfo⟩, firstSignatures, firstParameters⟩ :=
    firstChange
  obtain ⟨⟨secondGroups, secondInfo⟩, secondSignatures, secondParameters⟩ :=
    secondChange
  refine ⟨⟨secondGroups, ?_⟩, secondSignatures.trans firstSignatures,
    secondParameters.trans firstParameters⟩
  rw [secondInfo, firstInfo]

theorem id_eq
    {before after : Declaration}
    (change : Regrouped before after) :
    after.id = before.id := by
  obtain ⟨groups, infoEq⟩ := change.info_eq
  rw [Declaration.id, infoEq]
  rfl

theorem name_eq
    {before after : Declaration}
    (change : Regrouped before after) :
    after.name = before.name := by
  obtain ⟨groups, infoEq⟩ := change.info_eq
  rw [Declaration.name, infoEq]
  rfl

/-- Numbers are taken in a declaration as they are among its members. -/
theorem covers
    {before after : Declaration}
    {first last : Nat}
    (change : Regrouped before after)
    (members : Covers first last
      (before.children.flatMap Declaration.ids)
      (after.children.flatMap Declaration.ids)) :
    Covers first last before.ids after.ids := by
  rw [Declaration.ids_eq_cons_ownedIds, Declaration.ids_eq_cons_ownedIds,
    Declaration.ownedIds_eq, Declaration.ownedIds_eq, change.id_eq,
    change.signatures_eq, change.parameters_eq]
  exact members.around [before.id] _

/-- Ordering groups changes nothing but groups. -/
theorem of_sortMembers (declaration : Declaration) :
    Regrouped declaration declaration.sortMembers := by
  cases declaration
  exact ⟨⟨_, rfl⟩, rfl, rfl⟩

end Regrouped

@[simp] theorem Declaration.children_sortMembers (declaration : Declaration) :
    declaration.sortMembers.children = declaration.children := by
  cases declaration
  rfl

@[simp] theorem Info.id_addToGroup
    (info : Info)
    (title : String)
    (id : DeclId) :
    (info.addToGroup title id).id = info.id :=
  rfl

namespace Injecting

/-- A declaration marked as inherited. -/
def stamp
    (origin : Link)
    (declaration : Declaration) :
    Declaration :=
  declaration.updateInfo fun info => { info with inheritedFrom := some origin }

/-- The copy that is appended for a member. -/
def copyOf
    (ancestorName : String)
    (supply : IdSupply)
    (member : Declaration) :
    Declaration :=
  stamp (originOf ancestorName member) (member.renumber supply).1

/-- The member under the number of the one that it fills in. -/
def renamedTo
    (own member : Declaration) :
    Declaration :=
  member.updateInfo fun info => { info with id := own.id }

/-- What a member without a summary becomes. -/
def fillingOf
    (ancestorName : String)
    (supply : IdSupply)
    (own member : Declaration) :
    Declaration :=
  stamp (originOf ancestorName member)
    ((renamedTo own member).renumberOwned supply).1

@[simp] theorem inheritedFrom_stamp
    (origin : Link)
    (declaration : Declaration) :
    (stamp origin declaration).info.inheritedFrom = some origin := by
  cases declaration
  rfl

@[simp] theorem id_stamp
    (origin : Link)
    (declaration : Declaration) :
    (stamp origin declaration).id = declaration.id := by
  cases declaration
  rfl

@[simp] theorem id_renamedTo (own member : Declaration) :
    (renamedTo own member).id = own.id := by
  cases member
  rfl

@[simp] theorem id_fillingOf
    (ancestorName : String)
    (supply : IdSupply)
    (own member : Declaration) :
    (fillingOf ancestorName supply own member).id = own.id := by
  cases member
  rfl

@[simp] theorem name_fillingOf
    (ancestorName : String)
    (supply : IdSupply)
    (own member : Declaration) :
    (fillingOf ancestorName supply own member).name = member.name := by
  cases member
  rfl

theorem ownedIds_renamedTo (own member : Declaration) :
    (renamedTo own member).ownedIds = member.ownedIds :=
  Declaration.ownedIds_updateInfo _ member

/-- What takes another number still owns nodes of different numbers. -/
theorem nodup_ownedIds_renamedTo
    {member : Declaration}
    (distinct : member.ids.Nodup)
    (own : Declaration) :
    (renamedTo own member).ownedIds.Nodup := by
  rw [Declaration.ids_eq_cons_ownedIds] at distinct
  rw [ownedIds_renamedTo]
  exact (List.nodup_cons.mp distinct).2

/-- A copy owns what the member owns under new numbers. -/
theorem ownedInfos_copyOf
    {member : Declaration}
    (distinct : member.ids.Nodup)
    (ancestorName : String)
    (supply : IdSupply) :
    (copyOf ancestorName supply member).ownedInfos =
      member.ownedInfos.map
        (Declaration.renameInfo (member.assign supply).2.1.apply) := by
  rw [copyOf, stamp, Declaration.ownedInfos_updateInfo,
    Declaration.renumber_eq_rename distinct, Declaration.rename,
    Declaration.ownedInfos_mapInfo]

/-- What fills in a member owns what was copied, under new numbers. -/
theorem ownedInfos_fillingOf
    {member : Declaration}
    (distinct : member.ids.Nodup)
    (ancestorName : String)
    (supply : IdSupply)
    (own : Declaration) :
    (fillingOf ancestorName supply own member).ownedInfos =
      member.ownedInfos.map
        (Declaration.renameInfo
          ((renamedTo own member).assignOwned supply).2.1.apply) := by
  rw [fillingOf, stamp, Declaration.ownedInfos_updateInfo,
    Declaration.renumberOwned_eq_rename (nodup_ownedIds_renamedTo distinct own),
    Declaration.ownedInfos_updateInfo, Declaration.rename,
    Declaration.ownedInfos_mapInfo]
  congr 1
  exact Declaration.ownedInfos_updateInfo _ member

/-- A copy is made of numbers from the supply. -/
theorem covers_copyOf
    (ancestorName : String)
    (supply : IdSupply)
    (member : Declaration) :
    Covers supply.next (member.renumber supply).2.2.next []
      (copyOf ancestorName supply member).ids := by
  rw [copyOf, stamp, Declaration.ids_updateInfo _ rfl]
  exact Declaration.covers_renumber member supply

theorem le_id_copyOf
    (ancestorName : String)
    (supply : IdSupply)
    (member : Declaration) :
    supply.next ≤ (copyOf ancestorName supply member).id :=
  (((covers_copyOf ancestorName supply member).mem_or_taken
    (Declaration.id_mem_ids _)).resolve_left List.not_mem_nil).1

/-- What is below a filled member is made of numbers from the supply. -/
theorem covers_fillingOf
    (ancestorName : String)
    (supply : IdSupply)
    (own member : Declaration) :
    Covers supply.next
      ((renamedTo own member).renumberOwned supply).2.2.next []
      (fillingOf ancestorName supply own member).ownedIds := by
  rw [fillingOf, stamp, Declaration.ownedIds_updateInfo]
  exact Declaration.covers_renumberOwned _ supply

/-! ## One member -/

/-- What entering a member does. -/
inductive Enters
    (ancestorName : String)
    (before : Injecting)
    (member : Declaration)
    (after : Injecting) :
    Prop where
  /-- There was a failure before. -/
  | halted
      (failed : before.failure ≠ none)
      (same : after = before)
  /-- The class has a documented member of the name. -/
  | stands
      (position : Nat)
      (own : Declaration)
      (running : before.failure = none)
      (first : memberPosition? member.name before.target.children = some position)
      (found : before.target.children[position]? = some own)
      (documented : own.info.hasSummary = true)
      (same : after = before)
  /-- The member belongs to no group. -/
  | refused
      (running : before.failure = none)
      (absent : memberPosition? member.name before.target.children = none)
      (ungrouped : member.info.classify = none)
      (same : after =
        { before with
          failure := some (.missingGroup member.name ancestorName) })
  /-- A copy is appended. -/
  | appends
      (group : Assignment)
      (running : before.failure = none)
      (absent : memberPosition? member.name before.target.children = none)
      (grouped : member.info.classify = some group)
      (regrouped : Regrouped before.target after.target)
      (children_eq : after.target.children =
        before.target.children ++ [copyOf ancestorName before.supply member])
      (supply_eq : after.supply = (member.renumber before.supply).2.2)
      (members_eq : after.members = before.members + 1)
      (copies_eq : after.copies =
        before.copies ++ (member.renumber before.supply).2.1)
      (runs : after.failure = none)
  /-- The first member of the name is filled in. -/
  | fills
      (position : Nat)
      (own : Declaration)
      (running : before.failure = none)
      (first : memberPosition? member.name before.target.children = some position)
      (found : before.target.children[position]? = some own)
      (undocumented : own.info.hasSummary = false)
      (regrouped : Regrouped before.target after.target)
      (children_eq : after.target.children =
        before.target.children.set position
          (fillingOf ancestorName before.supply own member))
      (supply_eq : after.supply =
        ((renamedTo own member).renumberOwned before.supply).2.2)
      (members_eq : after.members = before.members + 1)
      (copies_eq : after.copies =
        before.copies ++
          ((renamedTo own member).renumberOwned before.supply).2.1)
      (runs : after.failure = none)

/-- A position that is found holds a member of the name. -/
theorem exists_of_memberPosition?
    {name : String}
    {members : List Declaration}
    {position : Nat}
    (first : memberPosition? name members = some position) :
    ∃ own, members[position]? = some own ∧ own.name = name := by
  obtain ⟨inside, isNamed, -⟩ :=
    List.findIdx?_eq_some_iff_getElem.mp first
  exact ⟨members[position], List.getElem?_eq_getElem inside,
    by simpa using isNamed⟩

/-- Entering a member does one of these things. -/
theorem enters_inject
    (ancestorName : String)
    (before : Injecting)
    (member : Declaration) :
    Enters ancestorName before member (inject ancestorName before member) := by
  cases running : before.failure with
  | some error =>
      exact .halted (by simp [running]) (by simp [inject, running])
  | none =>
      cases position : memberPosition? member.name before.target.children with
      | none =>
          cases grouped : member.info.classify with
          | none =>
              exact .refused running position grouped
                (by simp [inject, running, position, append, grouped])
          | some group =>
              have shape :
                  inject ancestorName before member =
                    append ancestorName before member := by
                simp [inject, running, position]
              rw [shape]
              cases targetShape : before.target with
              | node info children signatures parameters =>
                  refine .appends group running position grouped
                    ⟨?_, ?_, ?_⟩ ?_ ?_ ?_ ?_ ?_ <;>
                    simp only [append, grouped, targetShape]
                  · cases (originOf ancestorName member).target with
                    | none =>
                        exact ⟨info.groups, rfl⟩
                    | some id =>
                        exact ⟨_, rfl⟩
                  · cases (originOf ancestorName member).target <;> rfl
                  · cases (originOf ancestorName member).target <;> rfl
                  · cases (originOf ancestorName member).target <;> rfl
                  · exact running
      | some index =>
          obtain ⟨own, found, -⟩ := exists_of_memberPosition? position
          by_cases documented : own.info.hasSummary = true
          · exact .stands index own running position found documented
              (by simp [inject, running, position, found, documented])
          · have undocumented : own.info.hasSummary = false := by
              simpa using documented
            have shape :
                inject ancestorName before member =
                  fill ancestorName before index own member := by
              simp [inject, running, position, found, undocumented]
            rw [shape]
            cases targetShape : before.target with
            | node info children signatures parameters =>
                refine .fills index own running position found undocumented
                  ⟨?_, ?_, ?_⟩ ?_ ?_ ?_ ?_ ?_ <;>
                  simp only [fill, targetShape]
                · split <;> exact ⟨_, rfl⟩
                · split <;> rfl
                · split <;> rfl
                · split <;> rfl
                · rfl
                · rfl
                · exact running

namespace Enters

variable
    {ancestorName : String}
    {before after : Injecting}
    {member : Declaration}

/-- Only members and groups of the class change. -/
theorem regrouped_target
    (enters : Enters ancestorName before member after) :
    Regrouped before.target after.target := by
  cases enters with
  | halted _ same => exact same ▸ .refl _
  | stands _ _ _ _ _ _ same => exact same ▸ .refl _
  | refused _ _ _ same => exact same ▸ .refl _
  | appends _ _ _ _ regrouped => exact regrouped
  | fills _ _ _ _ _ _ regrouped => exact regrouped

/-- Numbers in the class are kept or taken from the supply. -/
theorem covers_target
    (enters : Enters ancestorName before member after) :
    Covers before.supply.next after.supply.next
      before.target.ids after.target.ids := by
  cases enters with
  | halted _ same => exact same ▸ .refl _ _
  | stands _ _ _ _ _ _ same => exact same ▸ .refl _ _
  | refused _ _ _ same => exact same ▸ .refl _ _
  | appends _ _ _ _ regrouped children_eq supply_eq =>
      apply regrouped.covers
      rw [children_eq, supply_eq, List.flatMap_append, List.flatMap_singleton]
      exact (covers_copyOf ancestorName before.supply member).join _
  | fills position own _ _ found _ regrouped children_eq supply_eq =>
      apply regrouped.covers
      obtain ⟨front, back, shape, -, setShape⟩ :=
        Declaration.exists_around found
      rw [children_eq, supply_eq, setShape, shape]
      simp only [List.flatMap_append, List.flatMap_cons]
      apply Covers.around
      rw [Declaration.ids_eq_cons_ownedIds (fillingOf _ _ _ _), id_fillingOf]
      refine ((covers_fillingOf ancestorName before.supply own member).join
        [own.id]).of_count_before fun number => ?_
      rw [Declaration.ids_eq_cons_ownedIds own]
      exact List.Sublist.count_le number
        (List.cons_sublist_cons.mpr (List.nil_sublist _))

end Enters

/-! ## All members -/

/-- What every entered member preserves, entering members preserves. -/
theorem foldl_inject_induction
    {motive : Injecting → Prop}
    {ancestorName : String}
    {members : List Declaration}
    {before : Injecting}
    (start : motive before)
    (step : ∀ between after, ∀ member ∈ members,
      Enters ancestorName between member after →
        motive between → motive after) :
    motive (members.foldl (inject ancestorName) before) := by
  induction members generalizing before with
  | nil =>
      exact start
  | cons first rest inductionHypothesis =>
      apply inductionHypothesis
      · exact step before _ first List.mem_cons_self
          (enters_inject ancestorName before first) start
      · exact fun between after member inRest =>
          step between after member (List.mem_cons_of_mem _ inRest)

theorem regrouped_foldl_inject
    (ancestorName : String)
    (members : List Declaration)
    (before : Injecting) :
    Regrouped before.target
      (members.foldl (inject ancestorName) before).target :=
  foldl_inject_induction
    (motive := fun injecting => Regrouped before.target injecting.target)
    (.refl _)
    fun _ _ _ _ enters regrouped => regrouped.trans enters.regrouped_target

theorem covers_foldl_inject
    (ancestorName : String)
    (members : List Declaration)
    (before : Injecting) :
    Covers before.supply.next
      (members.foldl (inject ancestorName) before).supply.next
      before.target.ids
      (members.foldl (inject ancestorName) before).target.ids :=
  foldl_inject_induction
    (motive := fun injecting =>
      Covers before.supply.next injecting.supply.next
        before.target.ids injecting.target.ids)
    (.refl _ _)
    fun _ _ _ _ enters covers => covers.trans enters.covers_target

end Injecting

end ApiTree.Decl
