import ApiTree.Proofs.Decl.Renaming
import ApiTree.Proofs.Hierarchy.Propagation
import Mathlib.Data.List.Find

namespace ApiTree.Decl

/-!
# Receiving in two runs

The same class in two runs differs in the numbers of what it received, and in
which classes were entered as extending it so far.  If it receives members that
differ likewise it does so again: names, groups and origins do not depend on the
numbers that copies were given.
-/

/-- Two states of a class that differ in the numbers of members and in back links. -/
structure Twin
    (names : DeclId → DeclId)
    (first second : Declaration) :
    Prop where
  info_eq : ∃ extendedBy,
    second.info = { first.info with extendedBy := extendedBy }
  children_eq : second.children = first.children.map (·.rename names)
  signatures_eq : second.signatures = first.signatures
  parameters_eq : second.parameters = first.parameters

/-- That names leave the numbers below a bound alone. -/
def Fixes
    (next : Nat)
    (names : DeclId → DeclId) :
    Prop :=
  ∀ number, number < next → names number = number

/-- That names do not confuse numbers below a bound. -/
def Separates
    (bound : Nat)
    (names : DeclId → DeclId) :
    Prop :=
  Set.InjOn names {number | number < bound}

namespace Twin

variable
    {names : DeclId → DeclId}
    {first second : Declaration}

theorem name_eq (twin : Twin names first second) : second.name = first.name := by
  obtain ⟨extendedBy, infoEq⟩ := twin.info_eq
  rw [Declaration.name, infoEq]
  rfl

/-- A change that does not look at back links keeps twins. -/
theorem updateInfo
    (twin : Twin names first second)
    {firstChange secondChange : Info → Info}
    (same : ∀ info extendedBy, ∃ afterwards,
      secondChange { info with extendedBy := extendedBy } =
        { firstChange info with extendedBy := afterwards }) :
    Twin names (first.updateInfo firstChange)
      (second.updateInfo secondChange) := by
  obtain ⟨⟨extendedBy, infoEq⟩, children_eq, signatures_eq, parameters_eq⟩ :=
    twin
  obtain ⟨afterwards, changed⟩ := same first.info extendedBy
  rw [← infoEq] at changed
  cases first
  cases second
  exact ⟨⟨afterwards, changed⟩, children_eq, signatures_eq, parameters_eq⟩

theorem setChildren
    (twin : Twin names first second)
    {firstMembers secondMembers : List Declaration}
    (members_eq : secondMembers = firstMembers.map (·.rename names)) :
    Twin names (first.setChildren firstMembers)
      (second.setChildren secondMembers) := by
  obtain ⟨info_eq, -, signatures_eq, parameters_eq⟩ := twin
  cases first
  cases second
  exact ⟨info_eq, members_eq, signatures_eq, parameters_eq⟩

theorem addChild
    (twin : Twin names first second)
    (child : Declaration) :
    Twin names (first.addChild child)
      (second.addChild (child.rename names)) := by
  obtain ⟨info_eq, children_eq, signatures_eq, parameters_eq⟩ := twin
  cases first
  cases second
  refine ⟨info_eq, ?_, signatures_eq, parameters_eq⟩
  simp only [Declaration.children_node] at children_eq
  simp [Declaration.addChild, children_eq]

/-- Names that agree on what members mention make the same twins. -/
theorem congr
    (twin : Twin names first second)
    {other : DeclId → DeclId}
    (same : ∀ member ∈ first.children, ∀ number ∈ member.mentions,
      names number = other number) :
    Twin other first second := by
  refine ⟨twin.info_eq, ?_, twin.signatures_eq, twin.parameters_eq⟩
  rw [twin.children_eq]
  exact List.map_congr_left fun member isMember =>
    Declaration.rename_congr (same member isMember)

end Twin

namespace Injecting

/-! ## Origins -/

/-- The number that stands for a member in the groups of its owner. -/
def originNumber? (member : Declaration) : Option DeclId :=
  match member.info.inheritedFrom with
  | some origin => origin.target
  | none => some member.id

@[simp] theorem target_originOf
    (ancestorName : String)
    (member : Declaration) :
    (originOf ancestorName member).target = originNumber? member := by
  cases origin : member.info.inheritedFrom <;>
    simp [originOf, originNumber?, origin]

@[simp] theorem originNumber?_stamp
    (origin : Link)
    (declaration : Declaration) :
    originNumber? (stamp origin declaration) = origin.target := by
  cases declaration
  rfl

/-- That a member was first declared before any number of a run was taken. -/
def Rooted
    (next : Nat)
    (member : Declaration) :
    Prop :=
  ∀ number, originNumber? member = some number → number < next

variable
    {names : DeclId → DeclId}
    {next : Nat}

/-- A renamed member was first declared in the same place. -/
theorem originOf_rename
    {member : Declaration}
    (fixes : Fixes next names)
    (rooted : Rooted next member)
    (ancestorName : String) :
    originOf ancestorName (member.rename names) =
      originOf ancestorName member := by
  cases origin : member.info.inheritedFrom with
  | some link =>
      simp [originOf, Declaration.renameInfo, origin]
  | none =>
      have isRooted := rooted member.id (by simp [originNumber?, origin])
      simp [originOf, Declaration.renameInfo, origin, fixes _ isRooted]

theorem rename_stamp
    (names : DeclId → DeclId)
    (origin : Link)
    (declaration : Declaration) :
    (stamp origin declaration).rename names =
      stamp origin (declaration.rename names) := by
  cases declaration
  simp [stamp, Declaration.rename, Declaration.updateInfo,
    Declaration.mapInfo_node, Declaration.renameInfo]

theorem rename_renamedTo
    (names : DeclId → DeclId)
    (own member : Declaration) :
    (renamedTo own member).rename names =
      renamedTo (own.rename names) (member.rename names) := by
  rw [renamedTo, renamedTo, Declaration.rename_updateInfo_id,
    Declaration.id_rename]

/-! ## Copies -/

variable
    {first second : IdSupply}
    {own member : Declaration}

theorem ownedMentions_renamedTo (own member : Declaration) :
    (renamedTo own member).ownedMentions = member.ownedMentions := by
  cases member
  rfl

/-- The copy of a renamed member is the renamed copy. -/
theorem copyOf_rename
    (fixes : Fixes next names)
    (rooted : Rooted next member)
    (distinct : member.ids.Nodup)
    (injective : Set.InjOn names {number | number ∈ member.mentions})
    (inStep : InStep names first second)
    (ancestorName : String) :
    copyOf ancestorName second (member.rename names) =
      (copyOf ancestorName first member).rename names := by
  rw [copyOf, copyOf, rename_stamp, originOf_rename fixes rooted,
    Declaration.renumber_rename distinct injective inStep]

theorem fillingOf_rename
    (fixes : Fixes next names)
    (rooted : Rooted next member)
    (distinct : member.ids.Nodup)
    (injective : Set.InjOn names {number | number ∈ member.mentions})
    (inStep : InStep names first second)
    (ancestorName : String) :
    fillingOf ancestorName second (own.rename names) (member.rename names) =
      (fillingOf ancestorName first own member).rename names := by
  have ownedDistinct := nodup_ownedIds_renamedTo distinct own
  have ownedInjective : Set.InjOn names
      {number | number ∈ (renamedTo own member).ownedMentions} := by
    rw [ownedMentions_renamedTo]
    exact injective.mono fun number isMentioned =>
      Declaration.ownedMentions_subset_mentions member isMentioned
  rw [fillingOf, fillingOf, rename_stamp, originOf_rename fixes rooted,
    ← rename_renamedTo,
    Declaration.renumberOwned_rename ownedDistinct ownedInjective inStep]

/-! ## Groups -/

/-- Lists the origin of a copied member in a group. -/
def listOrigin
    (title : String)
    (origin : Link)
    (info : Info) :
    Info :=
  match origin.target with
  | some number => info.addToGroup title number
  | none => info

/-- Lists the origin of what fills in a member in place of the earlier origin. -/
def relistOrigin
    (previous : Option Link)
    (origin : Link)
    (info : Info) :
    Info :=
  match previous.bind (·.target), origin.target with
  | some earlier, some fresh => moveEntries earlier fresh info
  | _, _ => info

theorem listOrigin_extendedBy
    (title : String)
    (origin : Link)
    (info : Info)
    (extendedBy : List Link) :
    listOrigin title origin { info with extendedBy := extendedBy } =
      { listOrigin title origin info with extendedBy := extendedBy } := by
  unfold listOrigin
  split <;> rfl

theorem relistOrigin_extendedBy
    (previous : Option Link)
    (origin : Link)
    (info : Info)
    (extendedBy : List Link) :
    relistOrigin previous origin { info with extendedBy := extendedBy } =
      { relistOrigin previous origin info with extendedBy := extendedBy } := by
  unfold relistOrigin
  split <;> rfl

/-- Every listed number is below a bound. -/
def ListedBelow
    (next : Nat)
    (info : Info) :
    Prop :=
  ∀ group ∈ info.groups, ∀ entry ∈ group.entries, entry < next

/-! ## Entering a member -/

/-- A class with the copy of a member. -/
theorem append_eq
    {group : Assignment}
    (grouped : member.info.classify = some group)
    (ancestorName : String)
    (injecting : Injecting) :
    append ancestorName injecting member =
      { injecting with
        target :=
          (injecting.target.updateInfo
            (listOrigin group.title (originOf ancestorName member))).addChild
              (copyOf ancestorName injecting.supply member)
        supply := (member.renumber injecting.supply).2.2
        members := injecting.members + 1
        copies := injecting.copies ++ (member.renumber injecting.supply).2.1 } := by
  obtain ⟨⟨info, children, signatures, parameters⟩, supply⟩ := injecting
  unfold append listOrigin copyOf stamp
  simp only [grouped]
  cases (originOf ancestorName member).target <;> rfl

/-- A class with a member filled in. -/
theorem fill_eq
    (ancestorName : String)
    (injecting : Injecting)
    (position : Nat)
    (own member : Declaration) :
    fill ancestorName injecting position own member =
      { injecting with
        target :=
          (injecting.target.setChildren
            (injecting.target.children.set position
              (fillingOf ancestorName injecting.supply own member))).updateInfo
                (relistOrigin own.info.inheritedFrom
                  (originOf ancestorName member))
        supply := ((renamedTo own member).renumberOwned injecting.supply).2.2
        members := injecting.members + 1
        copies := injecting.copies ++
          ((renamedTo own member).renumberOwned injecting.supply).2.1 } := by
  obtain ⟨⟨info, children, signatures, parameters⟩, supply⟩ := injecting
  unfold fill relistOrigin fillingOf
  generalize originOf ancestorName member = origin
  obtain ⟨name, target⟩ := origin
  cases own.info.inheritedFrom.bind (·.target) <;> cases target <;> rfl

/-- The first member of a name stands in the same place among renamed members. -/
theorem memberPosition?_rename
    (names : DeclId → DeclId)
    (name : String)
    (members : List Declaration) :
    memberPosition? name (members.map (·.rename names)) =
      memberPosition? name members := by
  simp [memberPosition?, List.findIdx?_map, Function.comp_def]

theorem hasSummary_rename
    (names : DeclId → DeclId)
    (declaration : Declaration) :
    (declaration.rename names).info.hasSummary = declaration.info.hasSummary := by
  rw [Declaration.info_rename]
  rfl

theorem classify_rename
    (names : DeclId → DeclId)
    (declaration : Declaration) :
    (declaration.rename names).info.classify = declaration.info.classify := by
  rw [Declaration.info_rename]
  rfl

/-! ## Twins that receive members -/

/-- A member that can be copied alike in two runs. -/
structure Copyable
    (next : Nat)
    (supply : IdSupply)
    (member : Declaration) :
    Prop where
  rooted : Rooted next member
  distinct : member.ids.Nodup
  known : ∀ number ∈ member.mentions, number < supply.next

/-- Two states of receiving members, in two runs. -/
structure Mirrors
    (names : DeclId → DeclId)
    (first second : Injecting) :
    Prop where
  target : Twin names first.target second.target
  inStep : InStep names first.supply second.supply
  failure_eq : second.failure = first.failure

namespace Mirrors

variable
    {first second : Injecting}
    {supply : IdSupply}

/-- Twins that are given the same copy stay twins. -/
theorem append
    (mirrors : Mirrors names first second)
    (fixes : Fixes next names)
    (separates : Separates supply.next names)
    (copyable : Copyable next supply member)
    (ancestorName : String) :
    Mirrors names (Injecting.append ancestorName first member)
      (Injecting.append ancestorName second (member.rename names)) := by
  cases grouped : member.info.classify with
  | none =>
      have otherGrouped := (classify_rename names member).trans grouped
      simp only [Injecting.append, grouped, otherGrouped,
        Declaration.name_rename]
      exact ⟨mirrors.target, mirrors.inStep, rfl⟩
  | some group =>
      have otherGrouped := (classify_rename names member).trans grouped
      rw [append_eq grouped, append_eq otherGrouped,
        copyOf_rename fixes copyable.rooted copyable.distinct
          (separates.mono copyable.known) mirrors.inStep,
        originOf_rename fixes copyable.rooted]
      refine
        { target :=
            (mirrors.target.updateInfo fun info extendedBy => ?_).addChild _
          inStep := Declaration.inStep_renumber names member mirrors.inStep
          failure_eq := mirrors.failure_eq }
      exact ⟨extendedBy, listOrigin_extendedBy _ _ info extendedBy⟩

theorem fill
    (mirrors : Mirrors names first second)
    (fixes : Fixes next names)
    (separates : Separates supply.next names)
    (copyable : Copyable next supply member)
    (ancestorName : String)
    (position : Nat) :
    Mirrors names (Injecting.fill ancestorName first position own member)
      (Injecting.fill ancestorName second position (own.rename names)
        (member.rename names)) := by
  have sameOrigin :
      (own.rename names).info.inheritedFrom = own.info.inheritedFrom := by
    rw [Declaration.info_rename]
    rfl
  have inStep := Declaration.inStep_renumberOwned names (renamedTo own member)
    mirrors.inStep
  rw [rename_renamedTo] at inStep
  rw [fill_eq, fill_eq, sameOrigin, originOf_rename fixes copyable.rooted,
    fillingOf_rename fixes copyable.rooted copyable.distinct
      (separates.mono copyable.known) mirrors.inStep]
  refine
    { target := (mirrors.target.setChildren ?_).updateInfo
        fun info extendedBy => ?_
      inStep := inStep
      failure_eq := mirrors.failure_eq }
  · rw [mirrors.target.children_eq, List.map_set]
  · exact ⟨extendedBy, relistOrigin_extendedBy _ _ info extendedBy⟩

/-- Twins that receive the same member, renamed, stay twins. -/
theorem inject
    (mirrors : Mirrors names first second)
    (fixes : Fixes next names)
    (separates : Separates supply.next names)
    (copyable : Copyable next supply member)
    (ancestorName : String) :
    Mirrors names (Injecting.inject ancestorName first member)
      (Injecting.inject ancestorName second (member.rename names)) := by
  cases running : first.failure with
  | some error =>
      have otherFailed := mirrors.failure_eq.trans running
      simpa only [Injecting.inject, running, otherFailed] using mirrors
  | none =>
      have otherRunning := mirrors.failure_eq.trans running
      have samePosition :
          memberPosition? (member.rename names).name second.target.children =
            memberPosition? member.name first.target.children := by
        rw [mirrors.target.children_eq, memberPosition?_rename,
          Declaration.name_rename]
      cases position : memberPosition? member.name first.target.children with
      | none =>
          have otherAbsent := samePosition.trans position
          simp only [Injecting.inject, running, otherRunning, position,
            otherAbsent]
          exact mirrors.append fixes separates copyable ancestorName
      | some index =>
          have otherPosition := samePosition.trans position
          obtain ⟨own, found, -⟩ := exists_of_memberPosition? position
          have otherFound :
              second.target.children[index]? = some (own.rename names) := by
            rw [mirrors.target.children_eq, List.getElem?_map, found]
            rfl
          simp only [Injecting.inject, running, otherRunning, position,
            otherPosition, found, otherFound, hasSummary_rename]
          split
          · exact mirrors
          · exact mirrors.fill fixes separates copyable ancestorName index

/-- Twins that receive the same members, renamed, stay twins. -/
theorem foldl_inject
    {members : List Declaration}
    (mirrors : Mirrors names first second)
    (fixes : Fixes next names)
    (separates : Separates supply.next names)
    (copyable : ∀ member ∈ members, Copyable next supply member)
    (ancestorName : String) :
    Mirrors names
      (members.foldl (Injecting.inject ancestorName) first)
      ((members.map (·.rename names)).foldl (Injecting.inject ancestorName)
        second) := by
  induction members generalizing first second with
  | nil =>
      exact mirrors
  | cons member rest inductionHypothesis =>
      obtain ⟨memberCopyable, restCopyable⟩ := List.forall_mem_cons.mp copyable
      exact inductionHypothesis
        (mirrors.inject fixes separates memberCopyable ancestorName)
        restCopyable

end Mirrors

end Injecting

/-! ## Ordering groups -/

section

variable
    {names : DeclId → DeclId}
    {next : Nat}
    {supply : IdSupply}
    {first second : Declaration}

/-- An entry of a group stands for the same member in both twins. -/
theorem Twin.entryName_eq
    (twin : Twin names first second)
    (fixes : Fixes next names)
    (separates : Separates supply.next names)
    (nextLe : next ≤ supply.next)
    (known : ∀ member ∈ first.children, member.id < supply.next)
    {entry : DeclId}
    (below : entry < next) :
    second.entryName entry = first.entryName entry := by
  have sameEntry (member : Declaration) (isMember : member ∈ first.children) :
      ((member.rename names).id == entry) = (member.id == entry) := by
    have isFixed := fixes entry below
    have same : names member.id = entry ↔ member.id = entry := by
      constructor
      · intro isEntry
        exact separates (known member isMember) (Nat.lt_of_lt_of_le below nextLe)
          (isEntry.trans isFixed.symm)
      · rintro rfl
        exact isFixed
    rw [Declaration.id_rename, Bool.eq_iff_iff]
    simpa using same
  have found :
      second.findEntry? entry =
        (first.findEntry? entry).map (·.rename names) := by
    rw [Declaration.findEntry?, Declaration.findEntry?, twin.children_eq,
      List.find?_map]
    congr 1
    refine List.find?_congr fun member isMember => ?_
    simp only [Function.comp_apply, sameEntry member isMember,
      Declaration.info_rename]
    rfl
  rw [Declaration.entryName, Declaration.entryName, found]
  cases first.findEntry? entry with
  | none =>
      rfl
  | some member =>
      exact Declaration.name_rename names member

/-- Twins whose groups list the same origins have their groups ordered alike. -/
theorem Twin.sortMembers
    (twin : Twin names first second)
    (fixes : Fixes next names)
    (separates : Separates supply.next names)
    (nextLe : next ≤ supply.next)
    (listed : Injecting.ListedBelow next first.info)
    (known : ∀ member ∈ first.children, member.id < supply.next) :
    Twin names first.sortMembers second.sortMembers := by
  have sameEntries (group : Group) (isGroup : group ∈ first.info.groups) :
      second.sortEntries group.entries = first.sortEntries group.entries := by
    have sameNames :
        group.entries.map (fun entry => (second.entryName entry, entry)) =
          group.entries.map fun entry => (first.entryName entry, entry) :=
      List.map_congr_left fun entry isEntry => by
        rw [twin.entryName_eq fixes separates nextLe known
          (listed group isGroup entry isEntry)]
    rw [Declaration.sortEntries, Declaration.sortEntries, sameNames]
  obtain ⟨⟨extendedBy, infoEq⟩, children_eq, signatures_eq, parameters_eq⟩ :=
    twin
  have sameGroups :
      second.info.groups.map (fun group =>
          { group with entries := second.sortEntries group.entries }) =
        first.info.groups.map fun group =>
          { group with entries := first.sortEntries group.entries } := by
    rw [infoEq]
    exact List.map_congr_left fun group isGroup => by
      rw [sameEntries group isGroup]
  refine ⟨⟨extendedBy, ?_⟩, ?_, ?_, ?_⟩
  · rw [Declaration.sortMembers, Declaration.sortMembers,
      Declaration.info_updateInfo, Declaration.info_updateInfo, sameGroups,
      infoEq]
  · rw [Declaration.children_sortMembers, Declaration.children_sortMembers]
    exact children_eq
  · cases first
    cases second
    exact signatures_eq
  · cases first
    cases second
    exact parameters_eq

/-- Twins that receive the members of twins along the same edge stay twins. -/
theorem Twin.received
    {before other : Inheriting}
    {ancestor otherAncestor : Declaration}
    (descendants : Twin names first second)
    (ancestors : Twin names ancestor otherAncestor)
    (inStep : InStep names before.supply other.supply)
    (fixes : Fixes next names)
    (separates : Separates supply.next names)
    (copyable : ∀ member ∈ ancestor.children,
      Injecting.Copyable next supply member)
    (edge : Edge) :
    Injecting.Mirrors names
      (Inheriting.received before edge ancestor first)
      (Inheriting.received other edge otherAncestor second) := by
  have opening : Injecting.Mirrors names
      (Inheriting.opening before edge ancestor first)
      (Inheriting.opening other edge otherAncestor second) := by
    refine
      { target := descendants.updateInfo fun info extendedBy => ?_
        inStep := inStep
        failure_eq := rfl }
    rw [ancestors.name_eq]
    exact ⟨extendedBy, rfl⟩
  rw [Inheriting.received, Inheriting.received, ancestors.children_eq,
    ancestors.name_eq]
  exact opening.foldl_inject fixes separates copyable ancestor.name

end

end ApiTree.Decl
