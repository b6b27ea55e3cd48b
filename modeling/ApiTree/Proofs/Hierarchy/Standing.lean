import ApiTree.Proofs.Hierarchy.Links

namespace ApiTree.Decl

/-!
# Where links lead

When a link is made its target is in the tree.  It can leave the tree later: what
a member owned is gone when the member is filled in.  So at any time the target
of a link bears the name that the link was made with, or it was lost along some
edge.  Classes that are left undisturbed are never lost, and neither are their
members.
-/

/-- What the links of a declaration say, those between classes and those to origins. -/
structure LinksHold
    (extended origin : Link → Prop)
    (info : Info) :
    Prop where
  extended : ∀ link ∈ info.extendedTypes ++ info.extendedBy, extended link
  inherited : ∀ link, info.inheritedFrom = some link → origin link

variable
    {extended origin : Link → Prop}

/-- What links say does not depend on numbers and groups. -/
theorem renumberable_linksHold : Renumberable (LinksHold extended origin) :=
  fun _ _ _ linksHold => ⟨linksHold.extended, linksHold.inherited⟩

theorem LinksHold.mono
    {laterExtended laterOrigin : Link → Prop}
    {info : Info}
    (linksHold : LinksHold extended origin info)
    (extendedStays : ∀ link, extended link → laterExtended link)
    (originStays : ∀ link, origin link → laterOrigin link) :
    LinksHold laterExtended laterOrigin info :=
  ⟨fun link member => extendedStays link (linksHold.extended link member),
    fun link isOrigin => originStays link (linksHold.inherited link isOrigin)⟩

/-- Without links there is nothing to say. -/
theorem linksHold_of_links_eq_nil
    {info : Info}
    (unlinked : info.links = []) :
    LinksHold extended origin info := by
  rw [Info.links, List.append_eq_nil_iff, Option.toList_eq_nil_iff] at unlinked
  obtain ⟨noClasses, noOrigin⟩ := unlinked
  constructor
  · intro link member
    rw [noClasses] at member
    cases member
  · intro link isOrigin
    rw [noOrigin] at isOrigin
    cases isOrigin

namespace Inheriting

variable
    {paths : List (DeclId × Path)}
    {before after : Inheriting}
    {edge : Edge}

/-- Following an edge keeps what links say, if it is true of the links that are made. -/
theorem Flows.linksHold
    (flows : Flows paths before edge after)
    (everywhere : before.root.Everywhere (LinksHold extended origin))
    (linksTrue : ∀ ancestorPath descendantPath ancestor descendant,
      Meets paths before.root edge ancestorPath descendantPath
          ancestor descendant →
        extended ⟨ancestor.name, some edge.1⟩ ∧
          extended ⟨descendant.name, some edge.2⟩ ∧
          ∀ member ∈ ancestor.children, member.info.inheritedFrom = none →
            origin ⟨ancestor.name ++ "." ++ member.name, some member.id⟩) :
    after.root.Everywhere (LinksHold extended origin) := by
  refine flows.everywhere renumberable_linksHold ?_ everywhere
  refine
    { stampable := ?_
      linked := ?_
      linkedBack := ?_ }
  · intro _ _ ancestor _ meets member isMember info linksHold
    obtain ⟨-, -, toMembers⟩ := linksTrue _ _ _ _ meets
    refine ⟨linksHold.extended, ?_⟩
    rintro link ⟨⟩
    -- A member that was inherited itself passes its origin on.
    cases isOrigin : member.info.inheritedFrom with
    | none =>
        rw [Injecting.originOf, isOrigin]
        exact toMembers member isMember isOrigin
    | some first =>
        rw [Injecting.originOf, isOrigin]
        have ancestorHolds := everywhere.descendant? meets.ancestor_found
        obtain ⟨-, inChildren, -⟩ :=
          Declaration.everywhere_iff.mp ancestorHolds
        exact (inChildren member isMember _ member.info_mem_infos).inherited
          first isOrigin
  · intro _ _ ancestor descendant meets linksHold
    obtain ⟨toAncestor, -⟩ := linksTrue _ _ _ _ meets
    rw [linkTo, Declaration.info_updateInfo]
    refine ⟨?_, linksHold.inherited⟩
    intro link member
    simp only [List.mem_append, List.mem_singleton] at member
    rcases member with (wasType | rfl) | isBack
    · exact linksHold.extended link (List.mem_append_left _ wasType)
    · exact toAncestor
    · exact linksHold.extended link (List.mem_append_right _ isBack)
  · intro _ _ _ _ meets found _ linksHold
    obtain ⟨-, toDescendant, -⟩ := linksTrue _ _ _ _ meets
    rw [linkBack, Declaration.info_updateInfo]
    refine ⟨?_, linksHold.inherited⟩
    intro link member
    simp only [List.mem_append, List.mem_singleton] at member
    rcases member with isType | wasBack | rfl
    · exact linksHold.extended link (List.mem_append_left _ isType)
    · exact linksHold.extended link (List.mem_append_right _ wasBack)
    · exact toDescendant

/-- A declaration that is found keeps its name unless something is filled in around it. -/
theorem Flows.names_or_filledAround
    {name : String}
    {number : DeclId}
    (flows : Flows paths before edge after)
    (names : before.root.Names name number) :
    after.root.Names name number ∨
      ∃ path declared,
        before.root.descendant? path = some declared ∧
          declared.id = number ∧
          FilledAround before.supply.next
            (fun owner => paths.lookup edge.2 = some owner)
            before.root after.root path := by
  have evolves :
      Evolves before.supply.next (fun owner => paths.lookup edge.2 = some owner)
        before.root after.root :=
    flows.evolves (fun _ looked => looked) (Nat.le_refl _)
  obtain ⟨path, declared, leads, rfl, rfl⟩ := names
  by_cases filledAround :
      FilledAround before.supply.next
        (fun owner => paths.lookup edge.2 = some owner)
        before.root after.root path
  · exact .inr ⟨path, declared, leads, rfl, filledAround⟩
  · obtain ⟨first, kept, firstLeads, keptLeads, isKept⟩ :=
      staysAt_of_not_filledAround evolves leads filledAround
        (List.prefix_refl path)
    obtain rfl : declared = first :=
      Option.some.inj (leads.symm.trans firstLeads)
    exact .inl ⟨path, kept, keptLeads, isKept.name_eq, isKept.id_eq⟩

end Inheriting

namespace Hierarchy

open Inheriting

variable
    {root : Declaration}
    {supply : IdSupply}
    {known edges : List Edge}

/-! ## Numbers that are lost -/

/--
That a declaration of a number was lost along an edge: a member of the descendant
was filled in, and the declaration stood below that member.
-/
def LostAlong
    (root : Declaration)
    (supply : IdSupply)
    (edges : List Edge)
    (number : DeclId) :
    Prop :=
  ∃ earlier edge path declared,
    earlier ++ [edge] <+: edges ∧
      (flowAlong root supply earlier).root.descendant? path = some declared ∧
      declared.id = number ∧
      FilledAround (flowAlong root supply earlier).supply.next
        (fun owner => root.childPaths.lookup edge.2 = some owner)
        (flowAlong root supply earlier).root
        (flowAlong root supply (earlier ++ [edge])).root path

theorem LostAlong.mono
    {number : DeclId}
    {longer : List Edge}
    (lost : LostAlong root supply edges number)
    (isFront : edges <+: longer) :
    LostAlong root supply longer number := by
  obtain ⟨earlier, edge, path, declared, isEarlier, isLost⟩ := lost
  exact ⟨earlier, edge, path, declared, isEarlier.trans isFront, isLost⟩

/-- What was lost along an edge is not in the tree any more, then or later. -/
theorem LostAlong.not_mem_ids
    {number : DeclId}
    (numbered : NumberedFrom supply root)
    (lost : LostAlong root supply edges number) :
    number ∉ (flowAlong root supply edges).root.ids := by
  obtain ⟨earlier, edge, path, declared, ⟨later, rfl⟩, leads, rfl, filled⟩ := lost
  have before := numberedFrom_flowAlong numbered earlier
  have isOld :
      declared.id < (flowAlong root supply earlier).supply.next :=
    before.below _
      (Declaration.ids_subset_of_descendant? leads declared.id_mem_ids)
  -- The number is gone after the edge, and later edges bring higher numbers only.
  induction later using List.reverseRecOn with
  | nil =>
      rw [List.append_nil]
      refine filled.not_mem_ids before.distinct ?_ leads isOld
      rw [flowAlong_concat]
      exact (flows_propagate root.childPaths _ edge).evolves
        (fun _ looked => looked) (Nat.le_refl _)
  | append_singleton later last inductionHypothesis =>
      rw [← List.append_assoc, flowAlong_concat]
      intro member
      have flows := flows_propagate root.childPaths
        (flowAlong root supply (earlier ++ [edge] ++ later)) last
      rcases flows.covers_root.mem_or_taken member with wasThere | isTaken
      · exact inductionHypothesis wasThere
      · have nextLe :
            (flowAlong root supply earlier).supply.next ≤
              (flowAlong root supply (earlier ++ [edge] ++ later)).supply.next := by
          rw [List.append_assoc]
          exact next_le_flowAlong_append root supply earlier _
        exact Nat.not_le.mpr isOld (Nat.le_trans nextLe isTaken.1)

/-! ## Targets of links -/

/-- That a number bears a name in the tree, or was lost. -/
def Accounted
    (root : Declaration)
    (supply : IdSupply)
    (edges : List Edge)
    (name : String)
    (number : DeclId) :
    Prop :=
  (flowAlong root supply edges).root.Names name number ∨
    LostAlong root supply edges number

/-- One more edge leaves a number accounted for. -/
theorem Accounted.concat
    {name : String}
    {number : DeclId}
    (accounted : Accounted root supply edges name number)
    (edge : Edge) :
    Accounted root supply (edges ++ [edge]) name number := by
  rcases accounted with names | lost
  · have flows := flows_propagate root.childPaths
      (flowAlong root supply edges) edge
    rcases flows.names_or_filledAround names with
        stays | ⟨path, declared, leads, isNumber, filled⟩
    · exact .inl (by rwa [flowAlong_concat])
    · refine .inr ⟨edges, edge, path, declared, List.prefix_refl _, leads,
        isNumber, ?_⟩
      rwa [flowAlong_concat]
  · exact .inr (lost.mono (List.prefix_append _ _))

/-- What was found at first is accounted for at any time. -/
theorem accounted_of_names
    {name : String}
    {number : DeclId}
    (names : root.Names name number)
    (edges : List Edge) :
    Accounted root supply edges name number := by
  induction edges using List.reverseRecOn with
  | nil =>
      exact .inl names
  | append_singleton earlier edge inductionHypothesis =>
      exact inductionHypothesis.concat edge

/--
When an edge is followed, each of its ends bears the name of what its path leads
to, or was lost before.
-/
theorem accounted_of_lookup
    {found : Declaration}
    {number : DeclId}
    {path : Path}
    (numbered : NumberedFrom supply root)
    (looked : root.childPaths.lookup number = some path)
    (leads : (flowAlong root supply edges).root.descendant? path = some found) :
    Accounted root supply edges found.name number := by
  obtain ⟨declared, declaredLeads, rfl⟩ :=
    Declaration.exists_of_lookup_childPaths looked
  have atFirst : root.Names declared.name declared.id :=
    ⟨path, declared, declaredLeads, rfl, rfl⟩
  rcases accounted_of_names atFirst edges with names | lost
  · -- The number is still there, so it is found at its old path.
    obtain ⟨now, nowLeads, sameId⟩ :=
      descendant?_of_reaches numbered
        (evolves_flowAlong (List.Subset.refl edges) root supply) declaredLeads
        names.reaches
    obtain rfl : found = now := Option.some.inj (leads.symm.trans nowLeads)
    exact .inl ⟨path, found, leads, rfl, sameId⟩
  · exact .inr lost

/-- A link between classes leads to an end of an edge that bears the link's name. -/
def ClassLinkStands
    (root : Declaration)
    (supply : IdSupply)
    (known edges : List Edge)
    (link : Link) :
    Prop :=
  ∀ target, link.target = some target →
    (∃ edge ∈ known, target = edge.1 ∨ target = edge.2) ∧
      root.Reaches target ∧
      Accounted root supply edges link.name target

/-- A link to an origin leads to a member that bears the last part of the link's name. -/
def OriginLinkStands
    (root : Declaration)
    (supply : IdSupply)
    (edges : List Edge)
    (link : Link) :
    Prop :=
  ∀ target, link.target = some target →
    ∃ owner member, link.name = owner ++ "." ++ member ∧
      Accounted root supply edges member target

/-- An edge that is followed makes links that lead to what they name. -/
theorem linksStand_flowAlong
    (numbered : NumberedFrom supply root)
    (unlinked : root.Everywhere fun info => info.links = [])
    (included : edges ⊆ known) :
    (flowAlong root supply edges).root.Everywhere
      (LinksHold (ClassLinkStands root supply known edges)
        (OriginLinkStands root supply edges)) := by
  induction edges using List.reverseRecOn with
  | nil =>
      exact fun info member => linksHold_of_links_eq_nil (unlinked info member)
  | append_singleton earlier edge inductionHypothesis =>
      have before := inductionHypothesis fun other isEarlier =>
        included (List.mem_append_left _ isEarlier)
      have isKnown : edge ∈ known := included (by simp)
      have later :
          (flowAlong root supply earlier).root.Everywhere
            (LinksHold (ClassLinkStands root supply known (earlier ++ [edge]))
              (OriginLinkStands root supply (earlier ++ [edge]))) := by
        intro info member
        refine (before info member).mono ?_ ?_
        · intro link stands target isTarget
          obtain ⟨isEnd, reaches, accounted⟩ := stands target isTarget
          exact ⟨isEnd, reaches, accounted.concat edge⟩
        · intro link stands target isTarget
          obtain ⟨owner, name, nameEq, accounted⟩ := stands target isTarget
          exact ⟨owner, name, nameEq, accounted.concat edge⟩
      have flows := flows_propagate root.childPaths
        (flowAlong root supply earlier) edge
      rw [← flowAlong_concat] at flows
      refine flows.linksHold later ?_
      intro ancestorPath descendantPath ancestor descendant meets
      have reaches {number : DeclId} {path : Path}
          (looked : root.childPaths.lookup number = some path) :
          root.Reaches number :=
        ⟨path, Declaration.exists_of_lookup_childPaths looked⟩
      refine ⟨?_, ?_, ?_⟩
      · rintro target ⟨⟩
        exact ⟨⟨edge, isKnown, .inl rfl⟩, reaches meets.ancestor_path,
          (accounted_of_lookup numbered meets.ancestor_path
            meets.ancestor_found).concat edge⟩
      · rintro target ⟨⟩
        exact ⟨⟨edge, isKnown, .inr rfl⟩, reaches meets.descendant_path,
          (accounted_of_lookup numbered meets.descendant_path
            meets.descendant_found).concat edge⟩
      · rintro member isMember - target ⟨⟩
        refine ⟨ancestor.name, member.name, rfl, Accounted.concat (.inl ?_) edge⟩
        obtain ⟨index, memberFound⟩ := List.getElem?_of_mem isMember
        refine ⟨ancestorPath ++ [index], member, ?_, rfl, rfl⟩
        rw [Declaration.descendant?_append, meets.ancestor_found]
        exact (ancestor.descendant?_singleton index).trans memberFound

/-! ## Undisturbed classes -/

/-- That a number is that of an end of an edge, or of a member of one. -/
def Anchored
    (root : Declaration)
    (known : List Edge)
    (number : DeclId) :
    Prop :=
  ∃ path declared,
    root.descendant? path = some declared ∧
      declared.id = number ∧
      (EndsAt root known path ∨
        ∃ owner index, path = owner ++ [index] ∧ EndsAt root known owner)

theorem anchored_of_lookup
    {number : DeclId}
    {path : Path}
    (looked : root.childPaths.lookup number = some path)
    (endsAt : EndsAt root known path) :
    Anchored root known number := by
  obtain ⟨declared, leads, isNumber⟩ :=
    Declaration.exists_of_lookup_childPaths looked
  exact ⟨path, declared, leads, isNumber, .inl endsAt⟩

/-- A member of an undisturbed class that was not inherited was there at first. -/
theorem Undisturbed.anchored_member
    {now owner member : Declaration}
    {path : Path}
    (undisturbed : Undisturbed root supply known now)
    (evolves : Evolves supply.next (ExtendsAt root known) root now)
    (endsAt : EndsAt root known path)
    (leads : now.descendant? path = some owner)
    (isMember : member ∈ owner.children)
    (own : member.info.inheritedFrom = none) :
    Anchored root known member.id := by
  obtain ⟨declared, declaredLeads⟩ := endsAt.exists_descendant?
  rcases evolves_descendant? evolves declaredLeads with
      ⟨changed, changedLeads, changes⟩ | ⟨front, isFront, filledAt⟩
  · obtain rfl : owner = changed :=
      Option.some.inj (leads.symm.trans changedLeads)
    obtain ⟨-, -, -, members⟩ := evolves_iff.mp changes
    obtain ⟨-, each, new⟩ := membersEvolve_iff.mp members
    obtain ⟨index, memberFound⟩ := List.getElem?_of_mem isMember
    by_cases inside : index < declared.children.length
    · have childFound := List.getElem?_eq_getElem inside
      rcases each index _ member childFound memberFound with
          memberEvolves | ⟨-, filled⟩
      · obtain ⟨relinked, -⟩ := evolves_iff.mp memberEvolves
        refine ⟨path ++ [index], _, ?_, relinked.id_eq.symm,
          .inr ⟨path, index, rfl, endsAt⟩⟩
        rw [Declaration.descendant?_append, declaredLeads]
        exact (declared.descendant?_singleton index).trans childFound
      · have inherited := filled.inherited
        rw [own] at inherited
        cases inherited
    · have inherited :=
        (new index member (Nat.le_of_not_lt inside) memberFound).inherited
      rw [own] at inherited
      cases inherited
  · exact (undisturbed path front endsAt isFront filledAt).elim

/-- While classes are undisturbed, links lead to classes and to members of classes. -/
theorem linksAnchored_flowAlong
    (unlinked : root.Everywhere fun info => info.links = [])
    (included : edges ⊆ known)
    (undisturbed : ∀ earlier, earlier <+: edges →
      Undisturbed root supply known (flowAlong root supply earlier).root) :
    (flowAlong root supply edges).root.Everywhere
      (LinksHold
        (fun link => ∀ target, link.target = some target →
          Anchored root known target)
        (fun link => ∀ target, link.target = some target →
          Anchored root known target)) := by
  induction edges using List.reverseRecOn with
  | nil =>
      exact fun info member => linksHold_of_links_eq_nil (unlinked info member)
  | append_singleton earlier edge inductionHypothesis =>
      have earlierIncluded : earlier ⊆ known := fun other isEarlier =>
        included (List.mem_append_left _ isEarlier)
      have isKnown : edge ∈ known := included (by simp)
      have before := inductionHypothesis earlierIncluded fun front isFront =>
        undisturbed front (isFront.trans (List.prefix_append _ _))
      rw [flowAlong_concat]
      refine (flows_propagate root.childPaths _ edge).linksHold before ?_
      intro ancestorPath descendantPath ancestor descendant meets
      have ancestorEnds : EndsAt root known ancestorPath :=
        ⟨edge, isKnown, .inl meets.ancestor_path⟩
      have descendantEnds : EndsAt root known descendantPath :=
        ⟨edge, isKnown, .inr meets.descendant_path⟩
      refine ⟨?_, ?_, ?_⟩
      · rintro target ⟨⟩
        exact anchored_of_lookup meets.ancestor_path ancestorEnds
      · rintro target ⟨⟩
        exact anchored_of_lookup meets.descendant_path descendantEnds
      · rintro member isMember own target ⟨⟩
        exact (undisturbed earlier (List.prefix_append _ _)).anchored_member
          (evolves_flowAlong earlierIncluded root supply) ancestorEnds
          meets.ancestor_found isMember own

/-- Undisturbed classes and their members stay in the tree. -/
theorem Undisturbed.mem_ids
    {now : Declaration}
    {number : DeclId}
    (undisturbed : Undisturbed root supply known now)
    (evolves : Evolves supply.next (ExtendsAt root known) root now)
    (anchored : Anchored root known number) :
    number ∈ now.ids := by
  obtain ⟨path, declared, leads, rfl, place⟩ := anchored
  have notFilled :
      ¬ FilledAround supply.next (ExtendsAt root known) root now path := by
    rintro ⟨front, isFront, isProper, filledAt⟩
    rcases place with endsAt | ⟨owner, index, rfl, endsAt⟩
    · exact undisturbed path front endsAt isFront filledAt
    · rcases List.prefix_concat_iff.mp isFront with isWhole | isOuter
      · exact isProper isWhole
      · exact undisturbed owner front endsAt isOuter filledAt
  obtain ⟨first, kept, firstLeads, keptLeads, isKept⟩ :=
    staysAt_of_not_filledAround evolves leads notFilled (List.prefix_refl path)
  obtain rfl : declared = first :=
    Option.some.inj (leads.symm.trans firstLeads)
  rw [← isKept.id_eq]
  exact Declaration.ids_subset_of_descendant? keptLeads kept.id_mem_ids

end Hierarchy

end ApiTree.Decl
