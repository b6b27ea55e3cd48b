import ApiTree.Proofs.Hierarchy.Apart
import ApiTree.Proofs.Hierarchy.Twins

namespace ApiTree.Decl

/-!
# Classes whose members are known

A copy is alike in two runs if its member was first declared in the tree at the
start and mentions no number that is still to be taken.  The classes of a closed
tree have such members only, and as long as they stand apart every edge leaves
them so.
-/

namespace Injecting

variable
    {names : DeclId → DeclId}
    {next : Nat}
    {supply first : IdSupply}
    {own member : Declaration}
    {ancestorName : String}
    {before after : Injecting}

/-! ## What groups list -/

theorem listedBelow_enter
    {groups : List Group}
    {title : String}
    {number : DeclId}
    (below : number < next)
    (listed : ∀ group ∈ groups, ∀ entry ∈ group.entries, entry < next) :
    ∀ group ∈ Info.addToGroup.enter title number groups,
      ∀ entry ∈ group.entries, entry < next := by
  induction groups with
  | nil =>
      intro group isGroup entry isEntry
      obtain rfl := List.mem_singleton.mp isGroup
      obtain rfl := List.mem_singleton.mp isEntry
      exact below
  | cons first rest inductionHypothesis =>
      obtain ⟨inFirst, inRest⟩ := List.forall_mem_cons.mp listed
      unfold Info.addToGroup.enter
      split
      · refine List.forall_mem_cons.mpr ⟨?_, inRest⟩
        intro entry isEntry
        rcases List.mem_append.mp isEntry with wasEntry | isNew
        · exact inFirst entry wasEntry
        · obtain rfl := List.mem_singleton.mp isNew
          exact below
      · exact List.forall_mem_cons.mpr ⟨inFirst, inductionHypothesis inRest⟩

theorem listedBelow_listOrigin
    {title : String}
    {origin : Link}
    {info : Info}
    (below : ∀ number, origin.target = some number → number < next)
    (listed : ListedBelow next info) :
    ListedBelow next (listOrigin title origin info) := by
  unfold listOrigin
  split
  · exact listedBelow_enter (below _ ‹_›) listed
  · exact listed

theorem listedBelow_relistOrigin
    {previous : Option Link}
    {origin : Link}
    {info : Info}
    (below : ∀ number, origin.target = some number → number < next)
    (listed : ListedBelow next info) :
    ListedBelow next (relistOrigin previous origin info) := by
  unfold relistOrigin
  split
  · intro group isGroup entry isEntry
    obtain ⟨before, wasGroup, rfl⟩ := List.mem_map.mp isGroup
    obtain ⟨earlier, wasEntry, rfl⟩ := List.mem_map.mp isEntry
    split
    · exact below _ ‹_›
    · exact listed before wasGroup earlier wasEntry
  · exact listed

/-! ## What a class mentions -/

/-- What the groups of a class list was there before, and its members are known. -/
structure Grounded
    (next : Nat)
    (supply : IdSupply)
    (declaration : Declaration) :
    Prop where
  listed : ListedBelow next declaration.info
  rooted : ∀ member ∈ declaration.children, Rooted next member
  known : ∀ member ∈ declaration.children, ∀ number ∈ member.mentions,
    number < supply.next

theorem Grounded.mono
    {declaration : Declaration}
    {later : IdSupply}
    (grounded : Grounded next supply declaration)
    (le : supply.next ≤ later.next) :
    Grounded next later declaration :=
  { grounded with
    known := fun member isMember number isMentioned =>
      Nat.lt_of_lt_of_le (grounded.known member isMember number isMentioned) le }

/-- The members of a grounded class have numbers that are taken. -/
theorem Grounded.member_lt
    {declaration : Declaration}
    (grounded : Grounded next supply declaration) :
    ∀ member ∈ declaration.children, member.id < supply.next :=
  fun member isMember => grounded.known member isMember member.id
    (Declaration.ids_subset_mentions member member.id_mem_ids)

theorem known_copyOf
    (copyable : Copyable next supply member)
    (le : supply.next ≤ first.next)
    {number : DeclId}
    (isMentioned : number ∈ (copyOf ancestorName first member).mentions) :
    number < (member.renumber first).2.2.next := by
  refine Declaration.mentions_renumber_lt copyable.distinct
    (fun one isKnown => Nat.lt_of_lt_of_le (copyable.known one isKnown) le) ?_
  rcases Declaration.mentions_updateInfo isMentioned with atTop | inCopy
  · exact Declaration.mem_mentions_iff.mpr ⟨_, Declaration.info_mem_infos _, atTop⟩
  · exact inCopy

theorem known_fillingOf
    (copyable : Copyable next supply member)
    (le : supply.next ≤ first.next)
    (ownKnown : own.id < first.next)
    {number : DeclId}
    (isMentioned : number ∈ (fillingOf ancestorName first own member).mentions) :
    number < ((renamedTo own member).renumberOwned first).2.2.next := by
  have ownedDistinct := nodup_ownedIds_renamedTo copyable.distinct own
  refine Declaration.mentions_renumberOwned_lt ownedDistinct ?_ ?_
  · intro one isOne
    rw [Declaration.mentions_eq_cons_ownedMentions, id_renamedTo,
      ownedMentions_renamedTo] at isOne
    rcases List.mem_cons.mp isOne with rfl | inMember
    · exact ownKnown
    · exact Nat.lt_of_lt_of_le
        (copyable.known one
          (Declaration.ownedMentions_subset_mentions member inMember)) le
  · rcases Declaration.mentions_updateInfo isMentioned with atTop | inCopy
    · exact Declaration.mem_mentions_iff.mpr
        ⟨_, Declaration.info_mem_infos _, atTop⟩
    · exact inCopy

namespace Grounded

theorem append
    (grounded : Grounded next before.supply before.target)
    (copyable : Copyable next supply member)
    (le : supply.next ≤ before.supply.next) :
    Grounded next (Injecting.append ancestorName before member).supply
      (Injecting.append ancestorName before member).target := by
  cases grouped : member.info.classify with
  | none =>
      simp only [Injecting.append, grouped]
      exact grounded
  | some group =>
      rw [append_eq grouped]
      have nextLe :=
        (Declaration.covers_renumber member before.supply).le
      refine
        { listed := ?_
          rooted := ?_
          known := ?_ }
      · rw [Declaration.info_addChild, Declaration.info_updateInfo]
        refine listedBelow_listOrigin ?_ grounded.listed
        simpa [Rooted] using copyable.rooted
      · simp only [Declaration.children_addChild,
          Declaration.children_updateInfo]
        refine List.forall_mem_append.mpr ⟨grounded.rooted, ?_⟩
        refine List.forall_mem_singleton.mpr ?_
        simpa [Rooted, copyOf] using copyable.rooted
      · simp only [Declaration.children_addChild,
          Declaration.children_updateInfo]
        refine List.forall_mem_append.mpr ⟨?_, ?_⟩
        · exact fun one isOne number isMentioned =>
            Nat.lt_of_lt_of_le (grounded.known one isOne number isMentioned)
              nextLe
        · exact List.forall_mem_singleton.mpr fun number isMentioned =>
            known_copyOf copyable le isMentioned

theorem fill
    (grounded : Grounded next before.supply before.target)
    (copyable : Copyable next supply member)
    (le : supply.next ≤ before.supply.next)
    {position : Nat}
    (found : before.target.children[position]? = some own) :
    Grounded next (Injecting.fill ancestorName before position own member).supply
      (Injecting.fill ancestorName before position own member).target := by
  have nextLe :=
    (Declaration.covers_renumberOwned (renamedTo own member) before.supply).le
  have ownKnown : own.id < before.supply.next :=
    grounded.known own (List.mem_of_getElem? found) own.id
      (Declaration.ids_subset_mentions own own.id_mem_ids)
  rw [fill_eq]
  refine
    { listed := ?_
      rooted := ?_
      known := ?_ }
  · rw [Declaration.info_updateInfo, Declaration.info_setChildren]
    refine listedBelow_relistOrigin ?_ grounded.listed
    simpa [Rooted] using copyable.rooted
  · simp only [Declaration.children_updateInfo, Declaration.children_setChildren]
    intro one isOne
    rcases List.mem_or_eq_of_mem_set isOne with wasMember | rfl
    · exact grounded.rooted one wasMember
    · simpa [Rooted, fillingOf] using copyable.rooted
  · simp only [Declaration.children_updateInfo, Declaration.children_setChildren]
    intro one isOne number isMentioned
    rcases List.mem_or_eq_of_mem_set isOne with wasMember | rfl
    · exact Nat.lt_of_lt_of_le
        (grounded.known one wasMember number isMentioned) nextLe
    · exact known_fillingOf copyable le ownKnown isMentioned

/-- A class that receives a member whose origin was there before stays grounded. -/
theorem inject
    (grounded : Grounded next before.supply before.target)
    (copyable : Copyable next supply member)
    (le : supply.next ≤ before.supply.next)
    (ancestorName : String) :
    Grounded next (Injecting.inject ancestorName before member).supply
      (Injecting.inject ancestorName before member).target := by
  cases running : before.failure with
  | some error =>
      simpa only [Injecting.inject, running] using grounded
  | none =>
      cases position : memberPosition? member.name before.target.children with
      | none =>
          simp only [Injecting.inject, running, position]
          exact grounded.append copyable le
      | some index =>
          obtain ⟨own, found, -⟩ := exists_of_memberPosition? position
          simp only [Injecting.inject, running, position, found]
          split
          · exact grounded
          · exact grounded.fill copyable le found

theorem foldl_inject
    {members : List Declaration}
    (grounded : Grounded next before.supply before.target)
    (copyable : ∀ member ∈ members, Copyable next supply member)
    (le : supply.next ≤ before.supply.next)
    (ancestorName : String) :
    Grounded next (members.foldl (Injecting.inject ancestorName) before).supply
      (members.foldl (Injecting.inject ancestorName) before).target := by
  induction members generalizing before with
  | nil =>
      exact grounded
  | cons member rest inductionHypothesis =>
      obtain ⟨memberCopyable, restCopyable⟩ := List.forall_mem_cons.mp copyable
      have enters := enters_inject ancestorName before member
      exact inductionHypothesis
        (grounded.inject memberCopyable le ancestorName) restCopyable
        (Nat.le_trans le enters.covers_target.le)

end Grounded

end Injecting

/-! ## Ordering groups -/

theorem mem_insertLeft_iff
    {group other : Group}
    {groups : List Group} :
    other ∈ insertLeft group groups ↔ other = group ∨ other ∈ groups := by
  induction groups with
  | nil =>
      simp [insertLeft]
  | cons last earlier inductionHypothesis =>
      unfold insertLeft
      split
      · simp only [List.mem_cons, inductionHypothesis]
        tauto
      · simp

/-- Ordering groups keeps them. -/
theorem mem_sortGroups_iff
    {group : Group}
    {groups : List Group} :
    group ∈ sortGroups groups ↔ group ∈ groups := by
  rw [sortGroups, List.mem_reverse]
  induction groups using List.reverseRecOn with
  | nil =>
      rfl
  | append_singleton earlier last inductionHypothesis =>
      rw [List.foldl_append, List.foldl_cons, List.foldl_nil,
        mem_insertLeft_iff, inductionHypothesis]
      simp [or_comm]

theorem mem_sortEntries_iff
    {declaration : Declaration}
    {entry : DeclId}
    {entries : List DeclId} :
    entry ∈ declaration.sortEntries entries ↔ entry ∈ entries := by
  simp [Declaration.sortEntries]

/-- Ordering groups lists nothing new. -/
theorem Injecting.Grounded.of_sortMembers
    {next : Nat}
    {supply : IdSupply}
    {first : Declaration}
    (grounded : Injecting.Grounded next supply first) :
    Injecting.Grounded next supply first.sortMembers := by
  refine
    { listed := ?_
      rooted := by
        rw [Declaration.children_sortMembers]
        exact grounded.rooted
      known := by
        rw [Declaration.children_sortMembers]
        exact grounded.known }
  intro group isGroup entry isEntry
  rw [Declaration.sortMembers, Declaration.info_updateInfo] at isGroup
  obtain ⟨before, wasGroup, rfl⟩ :=
    List.mem_map.mp (mem_sortGroups_iff.mp isGroup)
  exact grounded.listed before wasGroup entry (mem_sortEntries_iff.mp isEntry)

namespace Hierarchy

open Inheriting

variable
    {root tree : Declaration}
    {supply : IdSupply}
    {known : List Edge}
    {edge : Edge}
    {path ancestorPath descendantPath : Path}

/-! ## Closed trees -/

/-- A tree that mentions only numbers that are taken. -/
structure Closed
    (supply : IdSupply)
    (root : Declaration) :
    Prop where
  numbered : NumberedFrom supply root
  /-- What its groups list is taken. -/
  mentioned : ∀ number ∈ root.mentions, number < supply.next
  /-- What its members were inherited from is taken. -/
  origins : ∀ info ∈ root.infos, ∀ origin, info.inheritedFrom = some origin →
    ∀ target, origin.target = some target → target < supply.next

open Injecting (Grounded Copyable)

/-- That all classes of a hierarchy are grounded. -/
def GroundedEnds
    (root : Declaration)
    (known : List Edge)
    (next : Nat)
    (now : Inheriting) :
    Prop :=
  ∀ path, EndsAt root known path →
    ∃ current, now.root.descendant? path = some current ∧
      Grounded next now.supply current

/-- The classes of a closed tree are grounded. -/
theorem Closed.grounded
    (closed : Closed supply root)
    {declared : Declaration}
    (leads : root.descendant? path = some declared) :
    Grounded supply.next supply declared := by
  have mentioned (number : DeclId) (inDeclared : number ∈ declared.mentions) :
      number < supply.next :=
    closed.mentioned number
      (Declaration.mentions_subset_of_descendant? leads inDeclared)
  have memberLeads {member : Declaration} (isMember : member ∈ declared.children) :
      ∃ index, declared.descendant? [index] = some member := by
    obtain ⟨index, isAt⟩ := List.getElem?_of_mem isMember
    exact ⟨index, (Declaration.descendant?_singleton declared index).trans isAt⟩
  refine
    { listed := ?_
      rooted := ?_
      known := ?_ }
  · intro group isGroup entry isEntry
    refine mentioned entry (Declaration.mem_mentions_iff.mpr
      ⟨declared.info, declared.info_mem_infos, ?_⟩)
    exact List.mem_cons_of_mem _ (List.mem_flatMap.mpr ⟨group, isGroup, isEntry⟩)
  · intro member isMember number isOrigin
    obtain ⟨index, memberFound⟩ := memberLeads isMember
    have inDeclared := Declaration.infos_subset_of_descendant? memberFound
      member.info_mem_infos
    cases inherited : member.info.inheritedFrom with
    | some origin =>
        refine closed.origins member.info
          (Declaration.infos_subset_of_descendant? leads inDeclared) origin
          inherited number ?_
        simpa [Injecting.originNumber?, inherited] using isOrigin
    | none =>
        obtain rfl : member.id = number := by
          simpa [Injecting.originNumber?, inherited] using isOrigin
        exact mentioned member.id
          (Declaration.mentions_subset_of_descendant? memberFound
            (Declaration.ids_subset_mentions member member.id_mem_ids))
  · intro member isMember number inMember
    obtain ⟨index, memberFound⟩ := memberLeads isMember
    exact mentioned number
      (Declaration.mentions_subset_of_descendant? memberFound inMember)

/-- The members of a class in a numbered tree can be copied. -/
theorem copyable_of_grounded
    {next : Nat}
    {current : Declaration}
    (numbered : NumberedFrom supply tree)
    (leads : tree.descendant? path = some current)
    (grounded : Grounded next supply current) :
    ∀ member ∈ current.children, Copyable next supply member := by
  intro member isMember
  have distinct := Declaration.nodup_ids_of_descendant? numbered.distinct leads
  exact
    { rooted := grounded.rooted member isMember
      distinct := Declaration.nodup_ids_of_child distinct isMember
      known := grounded.known member isMember }

theorem grounded_received
    {next : Nat}
    {before : Inheriting}
    {ancestor descendant : Declaration}
    (grounded : Grounded next before.supply descendant)
    (copyable : ∀ member ∈ ancestor.children,
      Copyable next before.supply member) :
    Grounded next (received before edge ancestor descendant).supply
      (received before edge ancestor descendant).target := by
  have opened : Grounded next before.supply
      (opening before edge ancestor descendant).target := by
    refine
      { listed := ?_
        rooted := ?_
        known := ?_ }
    · rw [opening, linkTo, Declaration.info_updateInfo]
      exact grounded.listed
    · rw [children_opening]
      exact grounded.rooted
    · rw [children_opening]
      exact grounded.known
  exact Grounded.foldl_inject opened copyable (Nat.le_refl _) ancestor.name

theorem grounded_linkBack
    {next : Nat}
    {number : DeclId}
    {name : String}
    {current : Declaration}
    (grounded : Grounded next supply current) :
    Grounded next supply (linkBack number name current) := by
  cases current
  exact ⟨grounded.listed, grounded.rooted, grounded.known⟩

/-- At first classes are grounded. -/
theorem Closed.groundedEnds
    (closed : Closed supply root)
    (known : List Edge) :
    GroundedEnds root known supply.next { root := root, supply := supply } := by
  intro path ends
  obtain ⟨declared, leads⟩ := ends.exists_descendant?
  exact ⟨declared, leads, closed.grounded leads⟩

theorem GroundedEnds.grounded
    {next : Nat}
    {now : Inheriting}
    (groundedEnds : GroundedEnds root known next now)
    (ends : EndsAt root known path)
    {found : Declaration}
    (leads : now.root.descendant? path = some found) :
    Grounded next now.supply found := by
  obtain ⟨current, currentLeads, isGrounded⟩ := groundedEnds path ends
  obtain rfl : found = current :=
    Option.some.inj (leads.symm.trans currentLeads)
  exact isGrounded

/-- What a grounded class receives from another is grounded. -/
theorem GroundedEnds.received
    {next : Nat}
    {before : Inheriting}
    {ancestor descendant : Declaration}
    (groundedEnds : GroundedEnds root known next before)
    (numbered : NumberedFrom before.supply before.root)
    (joins : Joins root edge ancestorPath descendantPath)
    (isKnown : edge ∈ known)
    (ancestorFound : before.root.descendant? ancestorPath = some ancestor)
    (descendantFound : before.root.descendant? descendantPath = some descendant) :
    Grounded next (Inheriting.received before edge ancestor descendant).supply
      (Inheriting.received before edge ancestor descendant).target := by
  have ancestorGrounded :=
    groundedEnds.grounded (joins.ancestor_ends isKnown) ancestorFound
  have descendantGrounded :=
    groundedEnds.grounded (joins.descendant_ends isKnown) descendantFound
  exact grounded_received descendantGrounded
    (copyable_of_grounded numbered ancestorFound ancestorGrounded)

/-- An edge keeps classes grounded. -/
theorem Delivers.groundedEnds
    {next : Nat}
    {before after : Inheriting}
    {ancestor descendant : Declaration}
    (delivers : Delivers root known before edge ancestorPath descendantPath
      ancestor descendant after)
    (numbered : NumberedFrom before.supply before.root)
    (joins : Joins root edge ancestorPath descendantPath)
    (isKnown : edge ∈ known)
    (ancestorFound : before.root.descendant? ancestorPath = some ancestor)
    (descendantFound : before.root.descendant? descendantPath = some descendant)
    (grounded : GroundedEnds root known next before) :
    GroundedEnds root known next after := by
  have nextLe : before.supply.next ≤ after.supply.next := by
    rw [delivers.supply_eq]
    exact (covers_received before edge ancestor descendant).le
  intro path ends
  by_cases isDescendant : path = descendantPath
  · subst isDescendant
    refine ⟨_, delivers.descendant_eq, ?_⟩
    rw [delivers.supply_eq]
    exact (grounded.received numbered joins isKnown ancestorFound
      descendantFound).of_sortMembers
  · by_cases isAncestor : path = ancestorPath
    · subst isAncestor
      have isGrounded := grounded.grounded ends ancestorFound
      exact ⟨_, delivers.ancestor_eq,
        grounded_linkBack (isGrounded.mono nextLe)⟩
    · obtain ⟨current, leads, isGrounded⟩ := grounded path ends
      refine ⟨current, ?_, isGrounded.mono nextLe⟩
      rw [delivers.elsewhere path ends isAncestor isDescendant]
      exact leads

end Hierarchy

end ApiTree.Decl
