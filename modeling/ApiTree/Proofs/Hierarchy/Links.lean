import ApiTree.Proofs.Decl.Everywhere
import ApiTree.Proofs.Hierarchy.Delivery

namespace ApiTree.Decl

/-!
# Links between classes

Only the two ends of an edge are linked, and copies keep the links of what they
are copies of.  So only classes ever have links exactly if every edge that is
followed links classes.  Every edge does, if the classes of a hierarchy are
documented.
-/

/-- That only classes extend or are extended. -/
def LinkedIfClass (info : Info) : Prop :=
  info.kind = .classDecl ∨ (info.extendedTypes = [] ∧ info.extendedBy = [])

/-- Copies of classes are classes and have the same links. -/
theorem portable_linkedIfClass : Portable LinkedIfClass :=
  fun _ _ _ _ linkedIfClass => linkedIfClass

variable
    {holds : Info → Prop}

namespace Injecting

/-- What may be stamped holds everywhere in a declaration marked as inherited. -/
theorem everywhere_stamp
    {origin : Link}
    (stampable : Stampable holds origin)
    {declaration : Declaration}
    (everywhere : declaration.Everywhere holds) :
    (stamp origin declaration).Everywhere holds := by
  obtain ⟨atTop, -⟩ := Declaration.everywhere_iff.mp everywhere
  exact everywhere.updateInfo (stampable _ atTop)

theorem everywhere_copyOf
    (renumberable : Renumberable holds)
    {ancestorName : String}
    {member : Declaration}
    (stampable : Stampable holds (originOf ancestorName member))
    (supply : IdSupply)
    (everywhere : member.Everywhere holds) :
    (copyOf ancestorName supply member).Everywhere holds :=
  everywhere_stamp stampable (everywhere.renumber renumberable supply)

theorem everywhere_fillingOf
    (renumberable : Renumberable holds)
    {ancestorName : String}
    {member : Declaration}
    (stampable : Stampable holds (originOf ancestorName member))
    (supply : IdSupply)
    (own : Declaration)
    (everywhere : member.Everywhere holds) :
    (fillingOf ancestorName supply own member).Everywhere holds := by
  obtain ⟨atTop, -⟩ := Declaration.everywhere_iff.mp everywhere
  have renamed : (renamedTo own member).Everywhere holds :=
    everywhere.updateInfo (Declaration.holds_of_id renumberable atTop _)
  exact everywhere_stamp stampable (renamed.renumberOwned renumberable supply)

/-- What does not read groups holds after a change of members and groups. -/
theorem everywhere_of_regrouped
    (renumberable : Renumberable holds)
    {before after : Declaration}
    (regrouped : Regrouped before after)
    (everywhere : before.Everywhere holds)
    (members : ∀ child ∈ after.children, child.Everywhere holds) :
    after.Everywhere holds := by
  obtain ⟨atTop, -, inSignatures, inParameters⟩ :=
    Declaration.everywhere_iff.mp everywhere
  obtain ⟨groups, infoEq⟩ := regrouped.info_eq
  refine Declaration.everywhere_iff.mpr ⟨?_, members, ?_, ?_⟩
  · rw [infoEq]
    exact Declaration.holds_of_groups renumberable atTop groups
  · rw [regrouped.signatures_eq]
    exact inSignatures
  · rw [regrouped.parameters_eq]
    exact inParameters

/-- Entering a member keeps a property that holds of the member and its copies. -/
theorem Enters.everywhere
    (renumberable : Renumberable holds)
    {ancestorName : String}
    {before after : Injecting}
    {member : Declaration}
    (enters : Enters ancestorName before member after)
    (stampable : Stampable holds (originOf ancestorName member))
    (memberHolds : member.Everywhere holds)
    (everywhere : before.target.Everywhere holds) :
    after.target.Everywhere holds := by
  obtain ⟨-, inChildren, -⟩ := Declaration.everywhere_iff.mp everywhere
  cases enters with
  | halted _ same => exact same ▸ everywhere
  | stands _ _ _ _ _ _ same => exact same ▸ everywhere
  | refused _ _ _ same => exact same ▸ everywhere
  | appends _ _ _ _ regrouped children_eq =>
      refine everywhere_of_regrouped renumberable regrouped everywhere ?_
      intro child isChild
      rw [children_eq] at isChild
      rcases List.mem_append.mp isChild with wasChild | isCopy
      · exact inChildren child wasChild
      · obtain rfl := List.mem_singleton.mp isCopy
        exact everywhere_copyOf renumberable stampable _ memberHolds
  | fills _ _ _ _ _ _ regrouped children_eq =>
      refine everywhere_of_regrouped renumberable regrouped everywhere ?_
      intro child isChild
      rw [children_eq] at isChild
      rcases List.mem_or_eq_of_mem_set isChild with wasChild | rfl
      · exact inChildren child wasChild
      · exact everywhere_fillingOf renumberable stampable _ _ memberHolds

theorem everywhere_foldl_inject
    (renumberable : Renumberable holds)
    {ancestorName : String}
    {members : List Declaration}
    {before : Injecting}
    (stampable : ∀ member ∈ members,
      Stampable holds (originOf ancestorName member))
    (membersHold : ∀ member ∈ members, member.Everywhere holds)
    (everywhere : before.target.Everywhere holds) :
    (members.foldl (inject ancestorName) before).target.Everywhere holds :=
  foldl_inject_induction
    (motive := fun injecting => injecting.target.Everywhere holds)
    everywhere
    fun _ _ member isMember enters everywhere =>
      enters.everywhere renumberable (stampable member isMember)
        (membersHold member isMember) everywhere

end Injecting

namespace Inheriting

/--
What an edge has to allow for a property to be kept everywhere: members of the
ancestor may be stamped, the descendant may be linked to the ancestor, and what
stands in the place of the ancestor may be linked back.
-/
structure Admits
    (holds : Info → Prop)
    (paths : List (DeclId × Path))
    (before : Inheriting)
    (edge : Edge)
    (after : Inheriting) :
    Prop where
  stampable : ∀ ancestorPath descendantPath ancestor descendant,
    Meets paths before.root edge ancestorPath descendantPath
        ancestor descendant →
      ∀ member ∈ ancestor.children,
        Stampable holds (Injecting.originOf ancestor.name member)
  linked : ∀ ancestorPath descendantPath ancestor descendant,
    Meets paths before.root edge ancestorPath descendantPath
        ancestor descendant →
      holds descendant.info →
        holds (linkTo edge.1 ancestor.name descendant).info
  linkedBack : ∀ ancestorPath descendantPath ancestor descendant,
    Meets paths before.root edge ancestorPath descendantPath
        ancestor descendant →
      ∀ found,
        after.root.descendant? ancestorPath =
            some (linkBack edge.2 descendant.name found) →
          holds found.info →
            holds (linkBack edge.2 descendant.name found).info

variable
    {paths : List (DeclId × Path)}
    {before after : Inheriting}
    {edge : Edge}

/-- An edge keeps a property everywhere if it admits it. -/
theorem Flows.everywhere
    (renumberable : Renumberable holds)
    (flows : Flows paths before edge after)
    (admits : Admits holds paths before edge after)
    (everywhere : before.root.Everywhere holds) :
    after.root.Everywhere holds := by
  have receivedHolds {ancestorPath descendantPath : Path}
      {ancestor descendant : Declaration}
      (meets : Meets paths before.root edge ancestorPath descendantPath
        ancestor descendant) :
      (received before edge ancestor descendant).target.Everywhere holds := by
    have ancestorHolds := everywhere.descendant? meets.ancestor_found
    have descendantHolds := everywhere.descendant? meets.descendant_found
    obtain ⟨-, inChildren, -⟩ := Declaration.everywhere_iff.mp ancestorHolds
    obtain ⟨atTop, -⟩ := Declaration.everywhere_iff.mp descendantHolds
    have linked := admits.linked _ _ _ _ meets atTop
    rw [linkTo, Declaration.info_updateInfo] at linked
    exact Injecting.everywhere_foldl_inject renumberable
      (admits.stampable _ _ _ _ meets) inChildren
      (descendantHolds.updateInfo linked)
  cases flows with
  | halted _ same => exact same ▸ everywhere
  | skipped _ _ same => exact same ▸ everywhere
  | fails ancestorPath descendantPath ancestor descendant error _ meets _
      root_eq =>
      rw [root_eq]
      exact everywhere.replaceAt meets.descendant_found (receivedHolds meets)
  | flows ancestorPath descendantPath ancestor descendant _ meets _ root_eq =>
      have sortedHolds :
          (received before edge ancestor descendant).target.sortMembers.Everywhere
            holds := by
        obtain ⟨-, inChildren, -⟩ :=
          Declaration.everywhere_iff.mp (receivedHolds meets)
        refine Injecting.everywhere_of_regrouped renumberable
          (.of_sortMembers _) (receivedHolds meets) ?_
        rw [Declaration.children_sortMembers]
        exact inChildren
      -- The ancestor is looked up anew, because what it stands in may have changed.
      have linkedBack := admits.linkedBack _ _ _ _ meets
      have middleHolds := everywhere.replaceAt meets.descendant_found sortedHolds
      rw [root_eq] at linkedBack ⊢
      generalize before.root.replaceAt _ descendantPath = middle
        at linkedBack middleHolds ⊢
      cases leads : middle.descendant? ancestorPath with
      | none =>
          rw [Declaration.updateAt_of_none leads]
          exact middleHolds
      | some found =>
          rw [Declaration.updateAt_eq_replaceAt leads] at linkedBack ⊢
          have foundHolds := middleHolds.descendant? leads
          obtain ⟨atTop, -⟩ := Declaration.everywhere_iff.mp foundHolds
          have linked := linkedBack found
            (Declaration.descendant?_replaceAt_self leads _) atTop
          rw [linkBack, Declaration.info_updateInfo] at linked
          exact middleHolds.replaceAt leads (foundHolds.updateInfo linked)

/-- That an edge links classes only, if it is followed. -/
def LinksClasses
    (paths : List (DeclId × Path))
    (before : Inheriting)
    (edge : Edge)
    (after : Inheriting) :
    Prop :=
  ∀ ancestorPath descendantPath ancestor descendant,
    Meets paths before.root edge ancestorPath descendantPath
        ancestor descendant →
      descendant.kind = .classDecl ∧
        ∀ linked, after.root.descendant? ancestorPath = some linked →
          linked.kind = .classDecl

/-- An edge that links classes leaves only classes linked. -/
theorem Flows.linkedIfClass
    (flows : Flows paths before edge after)
    (links : LinksClasses paths before edge after)
    (everywhere : before.root.Everywhere LinkedIfClass) :
    after.root.Everywhere LinkedIfClass := by
  refine flows.everywhere portable_linkedIfClass.renumberable ?_ everywhere
  refine
    { stampable := fun _ _ _ _ _ _ _ => portable_linkedIfClass.stampable _
      linked := ?_
      linkedBack := ?_ }
  · intro _ _ _ descendant meets _
    obtain ⟨isClass, -⟩ := links _ _ _ _ meets
    rw [linkTo, Declaration.info_updateInfo]
    exact .inl isClass
  · intro _ _ _ _ meets _ leads _
    obtain ⟨-, linkedClass⟩ := links _ _ _ _ meets
    exact .inl (linkedClass _ leads)

/-- A link back leaves every kind and the types that are extended. -/
theorem exists_info_of_updateAt_linkBack
    {root : Declaration}
    {info : Info}
    (member : info ∈ root.infos)
    (number : DeclId)
    (name : String)
    (path : Path) :
    ∃ after ∈ (root.updateAt path (linkBack number name)).infos,
      after.kind = info.kind ∧ after.extendedTypes = info.extendedTypes := by
  cases leads : root.descendant? path with
  | none =>
      rw [Declaration.updateAt_of_none leads]
      exact ⟨info, member, rfl, rfl⟩
  | some found =>
      obtain ⟨front, back, shape, replacedShape⟩ :=
        Declaration.exists_infos_around leads
      rw [Declaration.updateAt_eq_replaceAt leads, replacedShape]
      rw [shape] at member
      cases found with
      | node top children signatures parameters =>
          rw [Declaration.infos_node] at member
          rw [linkBack, Declaration.updateInfo, Declaration.infos_node]
          simp only [List.mem_append, List.mem_cons] at member ⊢
          rcases member with inFront | (rfl | below) | inBack
          · exact ⟨info, .inl inFront, rfl, rfl⟩
          · exact ⟨_, .inr (.inl (.inl rfl)), rfl, rfl⟩
          · exact ⟨info, .inr (.inl (.inr below)), rfl, rfl⟩
          · exact ⟨info, .inr (.inr inBack), rfl, rfl⟩

/-- What receives members keeps its kind and extends something. -/
theorem extends_received
    (before : Inheriting)
    (edge : Edge)
    (ancestor descendant : Declaration) :
    let target := (received before edge ancestor descendant).target.sortMembers
    target.info.kind = descendant.kind ∧ target.info.extendedTypes ≠ [] := by
  have regrouped :=
    (regrouped_received before edge ancestor descendant).trans
      (Regrouped.of_sortMembers _)
  obtain ⟨groups, infoEq⟩ := regrouped.info_eq
  rw [linkTo, Declaration.info_updateInfo] at infoEq
  simp only [infoEq]
  exact ⟨rfl, List.concat_ne_nil _ _⟩

/-- If only classes are linked after an edge, the edge has linked classes. -/
theorem Flows.linksClasses
    (flows : Flows paths before edge after)
    (runs : after.failure = none)
    (everywhere : after.root.Everywhere LinkedIfClass) :
    LinksClasses paths before edge after := by
  intro ancestorPath descendantPath ancestor descendant meets
  cases flows with
  | halted failed same => exact (failed (same ▸ runs)).elim
  | skipped _ apart => exact (apart _ _ _ _ meets).elim
  | fails _ _ _ _ _ _ _ _ _ _ failure_eq =>
      rw [failure_eq] at runs
      cases runs
  | flows _ _ _ _ _ other _ root_eq =>
      obtain ⟨rfl, rfl, rfl, rfl⟩ := meets.unique other
      rw [root_eq] at everywhere ⊢
      constructor
      · obtain ⟨sameKind, isLinked⟩ :=
          extends_received before edge ancestor descendant
        have replaced := Declaration.descendant?_replaceAt_self
          meets.descendant_found
          (received before edge ancestor descendant).target.sortMembers
        obtain ⟨info, isInfo, keptKind, keptTypes⟩ :=
          exists_info_of_updateAt_linkBack
            (Declaration.infos_subset_of_descendant? replaced
              (Declaration.info_mem_infos _))
            edge.2 descendant.name ancestorPath
        rw [← sameKind, ← keptKind]
        rw [← keptTypes] at isLinked
        rcases everywhere info isInfo with isClass | ⟨noTypes, -⟩
        · exact isClass
        · exact (isLinked noTypes).elim
      · intro linked leads
        generalize before.root.replaceAt _ descendantPath = middle
          at everywhere leads
        have linkedHolds := everywhere linked.info
          (Declaration.infos_subset_of_descendant? leads linked.info_mem_infos)
        cases found : middle.descendant? ancestorPath with
        | none =>
            rw [Declaration.updateAt_of_none found, found] at leads
            cases leads
        | some ancestorNow =>
            rw [Declaration.updateAt_eq_replaceAt found,
              Declaration.descendant?_replaceAt_self found] at leads
            obtain rfl := Option.some.inj leads
            rcases linkedHolds with isClass | ⟨-, noLinks⟩
            · exact isClass
            · rw [linkBack, Declaration.info_updateInfo] at noLinks
              simp at noLinks

end Inheriting

namespace Hierarchy

open Inheriting

variable
    {root : Declaration}
    {supply : IdSupply}
    {known edges : List Edge}

/-- A property that reads neither numbers, groups nor links is kept everywhere. -/
theorem everywhere_flowAlong
    (portable : Portable holds)
    (unlinked : ∀ info extendedTypes extendedBy,
      holds info →
        holds
          { info with extendedTypes := extendedTypes, extendedBy := extendedBy })
    (everywhere : root.Everywhere holds)
    (edges : List Edge) :
    (flowAlong root supply edges).root.Everywhere holds := by
  refine flowAlong_induction
    (motive := fun inheriting => inheriting.root.Everywhere holds)
    everywhere ?_
  intro before after edge _ flows beforeHolds
  refine flows.everywhere portable.renumberable ?_ beforeHolds
  refine
    { stampable := fun _ _ _ _ _ _ _ => portable.stampable _
      linked := ?_
      linkedBack := ?_ }
  · intro _ _ _ descendant _ holdsHere
    rw [linkTo, Declaration.info_updateInfo]
    exact unlinked _ _ descendant.info.extendedBy holdsHere
  · intro _ _ _ _ _ found _ holdsHere
    rw [linkBack, Declaration.info_updateInfo]
    exact unlinked _ found.info.extendedTypes _ holdsHere

/-- That the path of one of the ends of edges was taken down. -/
def EndsAt
    (root : Declaration)
    (known : List Edge)
    (path : Path) :
    Prop :=
  ∃ edge ∈ known,
    root.childPaths.lookup edge.1 = some path ∨
      root.childPaths.lookup edge.2 = some path

/-- That the ends of edges are classes. -/
def ClassEnds
    (root : Declaration)
    (known : List Edge) :
    Prop :=
  ∀ path found, EndsAt root known path →
    root.descendant? path = some found → found.kind = .classDecl

/-- That no end of an edge, nor anything around it, was filled in. -/
def Undisturbed
    (root : Declaration)
    (supply : IdSupply)
    (known : List Edge)
    (now : Declaration) :
    Prop :=
  ∀ path front, EndsAt root known path → front <+: path →
    ¬ FilledAt supply.next (ExtendsAt root known) root now front

/-- That the ends of edges, and what is around them, are documented. -/
def DocumentedEnds
    (root : Declaration)
    (known : List Edge) :
    Prop :=
  ∀ path, EndsAt root known path → DocumentedAlong root known path

/-- Documented ends of edges are left undisturbed. -/
theorem DocumentedEnds.undisturbed
    (documented : DocumentedEnds root known)
    (supply : IdSupply)
    (now : Declaration) :
    Undisturbed root supply known now :=
  fun path _ endsAt isFront => (documented path endsAt).not_filledAt isFront

/-- A hierarchy of members of a root that extends nothing is documented. -/
theorem documentedEnds_of_top
    (top : ∀ path, EndsAt root known path → path.length ≤ 1)
    (rootApart : ∀ edge ∈ known, edge.2 ≠ root.id) :
    DocumentedEnds root known := by
  rintro path endsAt owner index declared isFront ⟨edge, isEdge, found, leads,
    isOwner⟩ -
  have lengthLe := Nat.le_trans isFront.length_le (top path endsAt)
  have isTop : owner = [] := by
    rw [List.length_append, List.length_singleton] at lengthLe
    exact List.eq_nil_of_length_eq_zero (by omega)
  subst isTop
  cases leads
  exact (rootApart edge isEdge isOwner.symm).elim

theorem EndsAt.exists_descendant?
    {path : Path}
    (endsAt : EndsAt root known path) :
    ∃ declared, root.descendant? path = some declared := by
  obtain ⟨edge, -, ancestorLooked | descendantLooked⟩ := endsAt
  · obtain ⟨declared, leads, -⟩ :=
      Declaration.exists_of_lookup_childPaths ancestorLooked
    exact ⟨declared, leads⟩
  · obtain ⟨declared, leads, -⟩ :=
      Declaration.exists_of_lookup_childPaths descendantLooked
    exact ⟨declared, leads⟩

/-- Undisturbed classes stay classes. -/
theorem Undisturbed.kind_eq
    {now found : Declaration}
    {path : Path}
    (undisturbed : Undisturbed root supply known now)
    (classes : ClassEnds root known)
    (evolves : Evolves supply.next (ExtendsAt root known) root now)
    (endsAt : EndsAt root known path)
    (leadsNow : now.descendant? path = some found) :
    found.kind = .classDecl := by
  obtain ⟨declared, leads⟩ := endsAt.exists_descendant?
  rcases evolves_descendant? evolves leads with
      ⟨changed, changedLeads, changes⟩ | ⟨front, isFront, filledAt⟩
  · obtain rfl : found = changed :=
      Option.some.inj (leadsNow.symm.trans changedLeads)
    obtain ⟨⟨_, _, _, infoEq⟩, -⟩ := evolves_iff.mp changes
    rw [Declaration.kind, infoEq]
    exact classes path declared endsAt leads
  · exact (undisturbed path front endsAt isFront filledAt).elim

/-- That every edge links classes only, if it is followed when its turn comes. -/
def LinksOnlyClasses
    (root : Declaration)
    (supply : IdSupply)
    (edges : List Edge) :
    Prop :=
  ∀ earlier edge, earlier ++ [edge] <+: edges →
    LinksClasses root.childPaths (flowAlong root supply earlier) edge
      (flowAlong root supply (earlier ++ [edge]))

/-- If every edge links classes only, then after any of them only classes are linked. -/
theorem linkedIfClass_flowAlong
    (links : LinksOnlyClasses root supply edges)
    (everywhere : root.Everywhere LinkedIfClass)
    {earlier : List Edge}
    (isFront : earlier <+: edges) :
    (flowAlong root supply earlier).root.Everywhere LinkedIfClass := by
  induction earlier using List.reverseRecOn with
  | nil =>
      exact everywhere
  | append_singleton earlier edge inductionHypothesis =>
      have earlierHolds :=
        inductionHypothesis ((List.prefix_append _ _).trans isFront)
      have edgeLinks := links earlier edge isFront
      rw [flowAlong_concat] at edgeLinks ⊢
      exact (flows_propagate root.childPaths _ edge).linkedIfClass edgeLinks
        earlierHolds

/-- In a run that does not fail no edge fails. -/
theorem failure_flowAlong_of_prefix
    {earlier : List Edge}
    (isFront : earlier <+: edges)
    (runs : (flowAlong root supply edges).failure = none) :
    (flowAlong root supply earlier).failure = none := by
  obtain ⟨later, rfl⟩ := isFront
  induction later using List.reverseRecOn with
  | nil =>
      rwa [List.append_nil] at runs
  | append_singleton later edge inductionHypothesis =>
      refine inductionHypothesis ?_
      rw [← List.append_assoc, flowAlong_concat] at runs
      cases flows_propagate root.childPaths
          (flowAlong root supply (earlier ++ later)) edge with
      | halted _ same => exact same ▸ runs
      | skipped running => exact running
      | fails _ _ _ _ _ running => exact running
      | flows _ _ _ _ running => exact running

/--
Every edge of a run that does not fail links classes only if and only if at no
time anything else is linked.
-/
theorem linksOnlyClasses_iff
    (everywhere : root.Everywhere LinkedIfClass)
    (runs : (flowAlong root supply edges).failure = none) :
    LinksOnlyClasses root supply edges ↔
      ∀ earlier, earlier <+: edges →
        (flowAlong root supply earlier).root.Everywhere LinkedIfClass := by
  constructor
  · intro links earlier isFront
    exact linkedIfClass_flowAlong links everywhere isFront
  · intro holds earlier edge isFront
    have edgeRuns := failure_flowAlong_of_prefix isFront runs
    have after := holds _ isFront
    rw [flowAlong_concat] at edgeRuns after ⊢
    exact (flows_propagate root.childPaths _ edge).linksClasses edgeRuns after

/-- While members flow between undisturbed classes every edge links classes only. -/
theorem linksOnlyClasses_of_undisturbed
    (included : edges ⊆ known)
    (classes : ClassEnds root known)
    (undisturbed : ∀ earlier, earlier <+: edges →
      Undisturbed root supply known (flowAlong root supply earlier).root) :
    LinksOnlyClasses root supply edges := by
  intro earlier edge isFront ancestorPath descendantPath ancestor descendant meets
  have edgesIncluded : earlier ++ [edge] ⊆ known :=
    List.Subset.trans isFront.subset included
  have isKnown : edge ∈ known := edgesIncluded (by simp)
  have earlierIncluded : earlier ⊆ known := fun other isOther =>
    edgesIncluded (List.mem_append_left _ isOther)
  have before := undisturbed earlier ((List.prefix_append _ _).trans isFront)
  have after := undisturbed _ isFront
  constructor
  · exact before.kind_eq classes (evolves_flowAlong earlierIncluded root supply)
      ⟨edge, isKnown, .inr meets.descendant_path⟩ meets.descendant_found
  · intro linked leads
    exact after.kind_eq classes (evolves_flowAlong edgesIncluded root supply)
      ⟨edge, isKnown, .inl meets.ancestor_path⟩ leads

end Hierarchy

end ApiTree.Decl
