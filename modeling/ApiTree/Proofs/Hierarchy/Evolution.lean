import ApiTree.Proofs.Hierarchy.Propagation

namespace ApiTree.Decl

/-!
# How a tree evolves

Members that flow change a tree in three ways: links and groups of a declaration
change, new members are appended, and members without a summary are filled in.
A member that is filled in keeps its number and its name, but all that it owned
is replaced.  A tree that evolves twice evolves.
-/

/-- Information that differs in groups and in links between classes only. -/
def Relinked (before after : Info) : Prop :=
  ∃ groups extendedTypes extendedBy,
    after =
      { before with
        groups := groups
        extendedTypes := extendedTypes
        extendedBy := extendedBy }

namespace Relinked

theorem refl (info : Info) : Relinked info info :=
  ⟨info.groups, info.extendedTypes, info.extendedBy, rfl⟩

theorem trans
    {first second third : Info}
    (firstChange : Relinked first second)
    (secondChange : Relinked second third) :
    Relinked first third := by
  obtain ⟨_, _, _, rfl⟩ := firstChange
  obtain ⟨groups, extendedTypes, extendedBy, rfl⟩ := secondChange
  exact ⟨groups, extendedTypes, extendedBy, rfl⟩

variable {before after : Info}

theorem id_eq (change : Relinked before after) : after.id = before.id := by
  obtain ⟨_, _, _, rfl⟩ := change
  rfl

theorem name_eq (change : Relinked before after) : after.name = before.name := by
  obtain ⟨_, _, _, rfl⟩ := change
  rfl

theorem comment_eq
    (change : Relinked before after) :
    after.comment = before.comment := by
  obtain ⟨_, _, _, rfl⟩ := change
  rfl

theorem hasSummary_eq
    (change : Relinked before after) :
    after.hasSummary = before.hasSummary := by
  obtain ⟨_, _, _, rfl⟩ := change
  rfl

theorem inheritedFrom_eq
    (change : Relinked before after) :
    after.inheritedFrom = before.inheritedFrom := by
  obtain ⟨_, _, _, rfl⟩ := change
  rfl

end Relinked

theorem Regrouped.relinked
    {before after : Declaration}
    (regrouped : Regrouped before after) :
    Relinked before.info after.info := by
  obtain ⟨groups, info_eq⟩ := regrouped.info_eq
  exact ⟨groups, before.info.extendedTypes, before.info.extendedBy, info_eq⟩

/-- Lists that match further match, if what is related further is. -/
theorem forall₂_trans
    {α β γ : Type}
    {first : α → β → Prop}
    {second : β → γ → Prop}
    {both : α → γ → Prop}
    (compose : ∀ one middle last, first one middle → second middle last →
      both one last)
    {start : List α}
    {between : List β}
    {finish : List γ}
    (firstMatch : List.Forall₂ first start between)
    (secondMatch : List.Forall₂ second between finish) :
    List.Forall₂ both start finish := by
  induction firstMatch generalizing finish with
  | nil =>
      cases secondMatch
      exact .nil
  | cons headMatch _ inductionHypothesis =>
      cases secondMatch with
      | cons headFollows restFollows =>
          exact .cons (compose _ _ _ headMatch headFollows)
            (inductionHypothesis restFollows)

/--
What a declaration without a summary may become over a run: its number and its name
stay, it is marked as inherited, and all that it owns is new.  Whose member has taken its
place is `Injecting.TakesOver`.
-/
structure FilledIn
    (floor : Nat)
    (before after : Declaration) :
    Prop where
  undocumented : before.info.hasSummary = false
  id_eq : after.id = before.id
  name_eq : after.name = before.name
  inherited : after.info.inheritedFrom.isSome = true
  owned_new : ∀ number ∈ after.ownedIds, floor ≤ number

/-- A member that was appended: it is marked as inherited, and all of it is new. -/
structure Appended
    (floor : Nat)
    (child : Declaration) :
    Prop where
  inherited : child.info.inheritedFrom.isSome = true
  all_new : ∀ number ∈ child.ids, floor ≤ number

mutual

/--
How a tree may change: links and groups anywhere, new members at the end, and
members filled in where paths allow it.
-/
def Evolves
    (floor : Nat)
    (allowed : Path → Prop) :
    Declaration → Declaration → Prop
  | .node info children signatures parameters, after =>
      Relinked info after.info ∧
        after.signatures = signatures ∧
        after.parameters = parameters ∧
        MembersEvolve floor allowed 0 children after.children

/-- How the members of a declaration may change, from a position on. -/
def MembersEvolve
    (floor : Nat)
    (allowed : Path → Prop)
    (index : Nat) :
    List Declaration → List Declaration → Prop
  | [], new => ∀ child ∈ new, Appended floor child
  | _ :: _, [] => False
  | child :: rest, changed :: changedRest =>
      (Evolves floor (fun path => allowed (index :: path)) child changed ∨
        (allowed [] ∧ FilledIn floor child changed)) ∧
        MembersEvolve floor allowed (index + 1) rest changedRest

end

variable
    {floor : Nat}
    {allowed : Path → Prop}

/-- How one member may change at its position. -/
def MemberEvolves
    (floor : Nat)
    (allowed : Path → Prop)
    (index : Nat)
    (before after : Declaration) :
    Prop :=
  Evolves floor (fun path => allowed (index :: path)) before after ∨
    (allowed [] ∧ FilledIn floor before after)

/-- Members change each at its position, and all others are new. -/
theorem membersEvolve_iff
    {index : Nat}
    {before after : List Declaration} :
    MembersEvolve floor allowed index before after ↔
      before.length ≤ after.length ∧
        (∀ (offset : Nat) (child changed : Declaration),
          before[offset]? = some child →
            after[offset]? = some changed →
              MemberEvolves floor allowed (index + offset) child changed) ∧
        (∀ (offset : Nat) (child : Declaration),
          before.length ≤ offset →
            after[offset]? = some child →
              Appended floor child) := by
  induction before generalizing index after with
  | nil =>
      simp only [MembersEvolve]
      constructor
      · intro isNew
        refine ⟨Nat.zero_le _, by simp, ?_⟩
        intro offset child _ found
        exact isNew child (List.mem_of_getElem? found)
      · rintro ⟨-, -, isNew⟩ child member
        obtain ⟨offset, found⟩ := List.getElem?_of_mem member
        exact isNew offset child (Nat.zero_le _) found
  | cons first rest inductionHypothesis =>
      cases after with
      | nil =>
          simp [MembersEvolve]
      | cons changed changedRest =>
          rw [MembersEvolve, inductionHypothesis]
          constructor
          · rintro ⟨firstEvolves, lengthLe, restEvolve, isNew⟩
            refine ⟨by simpa using lengthLe, ?_, ?_⟩
            · intro offset child other found otherFound
              cases offset with
              | zero =>
                  cases found
                  cases otherFound
                  exact firstEvolves
              | succ offset =>
                  rw [← Nat.add_assoc, Nat.add_right_comm]
                  exact restEvolve offset child other found otherFound
            · intro offset child beyond found
              cases offset with
              | zero =>
                  simp at beyond
              | succ offset =>
                  exact isNew offset child (by simpa using beyond) found
          · rintro ⟨lengthLe, evolve, isNew⟩
            refine ⟨evolve 0 first changed rfl rfl,
              by simpa using lengthLe, ?_, ?_⟩
            · intro offset child other found otherFound
              rw [Nat.add_right_comm, Nat.add_assoc]
              exact evolve (offset + 1) child other found otherFound
            · intro offset child beyond found
              exact isNew (offset + 1) child (by simpa using beyond) found

theorem evolves_iff
    {before after : Declaration} :
    Evolves floor allowed before after ↔
      Relinked before.info after.info ∧
        after.signatures = before.signatures ∧
        after.parameters = before.parameters ∧
        MembersEvolve floor allowed 0 before.children after.children := by
  cases before
  rfl

/-- Members that may each stay as they are may all stay as they are. -/
theorem membersEvolve_of_each
    {index : Nat}
    {members : List Declaration}
    (each : ∀ child ∈ members, ∀ index,
      Evolves floor (fun path => allowed (index :: path)) child child) :
    MembersEvolve floor allowed index members members := by
  refine membersEvolve_iff.mpr ⟨Nat.le_refl _, ?_, ?_⟩
  · intro offset child changed found changedFound
    obtain rfl : child = changed :=
      Option.some.inj (found.symm.trans changedFound)
    exact .inl (each child (List.mem_of_getElem? found) _)
  · intro offset child beyond found
    simp [List.getElem?_eq_none beyond] at found

theorem evolves_refl
    (declaration : Declaration) :
    Evolves floor allowed declaration declaration := by
  induction declaration using Declaration.ownedInduction generalizing allowed with
  | node info children signatures parameters childrenHold _ _ =>
      exact evolves_iff.mpr ⟨.refl info, rfl, rfl,
        membersEvolve_of_each fun child member _ => childrenHold child member⟩

theorem membersEvolve_refl
    (index : Nat)
    (members : List Declaration) :
    MembersEvolve floor allowed index members members :=
  membersEvolve_of_each fun child _ _ => evolves_refl child

/-- That the number of a declaration stood for one of the same name. -/
def Keeps
    (infos : List Info)
    (info : Info) :
    Prop :=
  ∃ old ∈ infos, old.id = info.id ∧ old.name = info.name

theorem Keeps.mono
    {first second : List Info}
    {info : Info}
    (keeps : Keeps first info)
    (included : first ⊆ second) :
    Keeps second info := by
  obtain ⟨old, member, same⟩ := keeps
  exact ⟨old, included member, same⟩

/-- What is in a declaration that was filled in is the declaration itself or new. -/
theorem FilledIn.keeps_or_new
    {before after : Declaration}
    (filled : FilledIn floor before after)
    {info : Info}
    (member : info ∈ after.infos) :
    Keeps before.infos info ∨ floor ≤ info.id := by
  rw [Declaration.infos, Declaration.nodes_eq_cons_owned, List.map_cons,
    List.mem_cons] at member
  rcases member with rfl | isOwned
  · exact .inl ⟨before.info, before.info_mem_infos, filled.id_eq.symm,
      filled.name_eq.symm⟩
  · obtain ⟨node, inOwned, rfl⟩ := List.mem_map.mp isOwned
    exact .inr (filled.owned_new _ (List.mem_map.mpr ⟨node, inOwned, rfl⟩))

/-- Among changed members each node was there before or is new. -/
theorem keeps_or_new_of_membersEvolve
    {index : Nat}
    {before after : List Declaration}
    (each : ∀ child ∈ before, ∀ (index : Nat) (changed : Declaration),
      Evolves floor (fun path => allowed (index :: path)) child changed →
        ∀ info ∈ changed.infos, Keeps child.infos info ∨ floor ≤ info.id)
    (evolve : MembersEvolve floor allowed index before after)
    {info : Info}
    (member : info ∈ after.flatMap Declaration.infos) :
    Keeps (before.flatMap Declaration.infos) info ∨ floor ≤ info.id := by
  obtain ⟨lengthLe, evolves, isNew⟩ := membersEvolve_iff.mp evolve
  obtain ⟨changed, isMember, inChanged⟩ := List.mem_flatMap.mp member
  obtain ⟨offset, found⟩ := List.getElem?_of_mem isMember
  by_cases beyond : before.length ≤ offset
  · refine .inr ((isNew offset changed beyond found).all_new _ ?_)
    rw [Declaration.ids_eq_map_infos]
    exact List.mem_map.mpr ⟨info, inChanged, rfl⟩
  · obtain ⟨child, childFound⟩ :
        ∃ child, before[offset]? = some child :=
      ⟨before[offset], List.getElem?_eq_getElem (by omega)⟩
    have isChild := List.mem_of_getElem? childFound
    have inChild : Keeps child.infos info ∨ floor ≤ info.id := by
      rcases evolves offset child changed childFound found with
          childEvolves | ⟨-, filled⟩
      · exact each child isChild _ changed childEvolves info inChanged
      · exact filled.keeps_or_new inChanged
    refine inChild.imp_left fun keeps => keeps.mono fun old inOld => ?_
    exact List.mem_flatMap.mpr ⟨child, isChild, inOld⟩

/-- In a changed tree each node was there before under its name or is new. -/
theorem keeps_or_new_of_evolves
    {before after : Declaration}
    (evolves : Evolves floor allowed before after)
    {info : Info}
    (member : info ∈ after.infos) :
    Keeps before.infos info ∨ floor ≤ info.id := by
  induction before using Declaration.ownedInduction
    generalizing allowed after info with
  | node top children signatures parameters childrenHold _ _ =>
      obtain ⟨relinked, signaturesEq, parametersEq, evolve⟩ :=
        evolves_iff.mp evolves
      rw [← after.node_parts, Declaration.infos_node, signaturesEq,
        parametersEq] at member
      rw [Declaration.infos_node]
      rcases List.mem_cons.mp member with rfl | below
      · exact .inl ⟨top, List.mem_cons_self, relinked.id_eq.symm,
          relinked.name_eq.symm⟩
      · rcases List.mem_append.mp below with inChildren | inRest
        · have each := keeps_or_new_of_membersEvolve
            (fun child isChild index changed childEvolves info inChanged =>
              childrenHold child isChild childEvolves inChanged)
            evolve inChildren
          refine each.imp_left fun keeps => keeps.mono fun old inOld => ?_
          exact List.mem_cons_of_mem _ (List.mem_append_left _ inOld)
        · exact .inl ⟨info,
            List.mem_cons_of_mem _ (List.mem_append_right _ inRest), rfl, rfl⟩

/-- In a changed tree each number was there before or is new. -/
theorem mem_ids_of_evolves
    {before after : Declaration}
    (evolves : Evolves floor allowed before after)
    {number : DeclId}
    (member : number ∈ after.ids) :
    number ∈ before.ids ∨ floor ≤ number := by
  rw [Declaration.ids_eq_map_infos] at member
  obtain ⟨info, inAfter, rfl⟩ := List.mem_map.mp member
  refine (keeps_or_new_of_evolves evolves inAfter).imp_left ?_
  rintro ⟨old, inBefore, sameId, -⟩
  rw [Declaration.ids_eq_map_infos]
  exact List.mem_map.mpr ⟨old, inBefore, sameId⟩

/-- Among changed members each number was there before or is new. -/
theorem mem_ids_of_membersEvolve
    {index : Nat}
    {before after : List Declaration}
    (evolve : MembersEvolve floor allowed index before after)
    {number : DeclId}
    (member : number ∈ after.flatMap Declaration.ids) :
    number ∈ before.flatMap Declaration.ids ∨ floor ≤ number := by
  have shape (declarations : List Declaration) :
      declarations.flatMap Declaration.ids =
        (declarations.flatMap Declaration.infos).map Info.id := by
    rw [List.map_flatMap]
    exact List.flatMap_congr fun one _ => one.ids_eq_map_infos
  rw [shape] at member ⊢
  obtain ⟨info, inAfter, rfl⟩ := List.mem_map.mp member
  have each := keeps_or_new_of_membersEvolve
    (fun _ _ _ _ childEvolves _ => keeps_or_new_of_evolves childEvolves)
    evolve inAfter
  refine each.imp_left ?_
  rintro ⟨old, inBefore, sameId, -⟩
  exact List.mem_map.mpr ⟨old, inBefore, sameId⟩

/-- The numbers in a declaration that was filled in are its own and new ones. -/
theorem FilledIn.mem_ids
    {before after : Declaration}
    (filled : FilledIn floor before after)
    {number : DeclId}
    (member : number ∈ after.ids) :
    number ∈ before.ids ∨ floor ≤ number := by
  rw [Declaration.ids_eq_cons_ownedIds] at member
  rcases List.mem_cons.mp member with isTop | isOwned
  · rw [isTop, filled.id_eq]
    exact .inl before.id_mem_ids
  · exact .inr (filled.owned_new number isOwned)

theorem mem_ownedIds_of_evolves
    {before after : Declaration}
    (evolves : Evolves floor allowed before after)
    {number : DeclId}
    (member : number ∈ after.ownedIds) :
    number ∈ before.ownedIds ∨ floor ≤ number := by
  obtain ⟨-, signaturesEq, parametersEq, evolve⟩ := evolves_iff.mp evolves
  rw [Declaration.ownedIds_eq, signaturesEq, parametersEq] at member
  rw [Declaration.ownedIds_eq]
  rcases List.mem_append.mp member with inChildren | inRest
  · exact (mem_ids_of_membersEvolve evolve inChildren).imp_left
      (List.mem_append_left _)
  · exact .inl (List.mem_append_right _ inRest)

/-- A declaration filled in after it changed was filled in from the start. -/
theorem FilledIn.after_evolves
    {first second third : Declaration}
    (evolves : Evolves floor allowed first second)
    (filled : FilledIn floor second third) :
    FilledIn floor first third := by
  obtain ⟨relinked, -⟩ := evolves_iff.mp evolves
  exact
    { undocumented := relinked.hasSummary_eq ▸ filled.undocumented
      id_eq := filled.id_eq.trans relinked.id_eq
      name_eq := filled.name_eq.trans relinked.name_eq
      inherited := filled.inherited
      owned_new := filled.owned_new }

/-- A declaration that changes after it was filled in stays filled in. -/
theorem FilledIn.before_evolves
    {first second third : Declaration}
    (filled : FilledIn floor first second)
    (evolves : Evolves floor allowed second third) :
    FilledIn floor first third := by
  obtain ⟨relinked, -⟩ := evolves_iff.mp evolves
  refine
    { undocumented := filled.undocumented
      id_eq := Eq.trans relinked.id_eq filled.id_eq
      name_eq := Eq.trans relinked.name_eq filled.name_eq
      inherited := relinked.inheritedFrom_eq ▸ filled.inherited
      owned_new := ?_ }
  intro number member
  rcases mem_ownedIds_of_evolves evolves member with isOwned | isNew
  · exact filled.owned_new number isOwned
  · exact isNew

theorem FilledIn.trans
    {first second third : Declaration}
    (firstFilled : FilledIn floor first second)
    (secondFilled : FilledIn floor second third) :
    FilledIn floor first third :=
  { undocumented := firstFilled.undocumented
    id_eq := secondFilled.id_eq.trans firstFilled.id_eq
    name_eq := secondFilled.name_eq.trans firstFilled.name_eq
    inherited := secondFilled.inherited
    owned_new := secondFilled.owned_new }

theorem MemberEvolves.mem_ids
    {index : Nat}
    {before after : Declaration}
    (evolves : MemberEvolves floor allowed index before after)
    {number : DeclId}
    (member : number ∈ after.ids) :
    number ∈ before.ids ∨ floor ≤ number := by
  rcases evolves with evolves | ⟨-, filled⟩
  · exact mem_ids_of_evolves evolves member
  · exact filled.mem_ids member

/-- What is marked as inherited stays marked. -/
theorem MemberEvolves.inherited
    {index : Nat}
    {before after : Declaration}
    (evolves : MemberEvolves floor allowed index before after)
    (inherited : before.info.inheritedFrom.isSome = true) :
    after.info.inheritedFrom.isSome = true := by
  rcases evolves with evolves | ⟨-, filled⟩
  · obtain ⟨relinked, -⟩ := evolves_iff.mp evolves
    rwa [relinked.inheritedFrom_eq]
  · exact filled.inherited

/-- A member that changes after it was appended stays an appended one. -/
theorem Appended.evolves
    {index : Nat}
    {before after : Declaration}
    (appended : Appended floor before)
    (evolves : MemberEvolves floor allowed index before after) :
    Appended floor after := by
  refine ⟨evolves.inherited appended.inherited, ?_⟩
  intro number member
  rcases evolves.mem_ids member with wasThere | isNew
  · exact appended.all_new number wasThere
  · exact isNew

/-- A tree may change several times. -/
theorem evolves_trans
    {first second third : Declaration}
    (firstEvolves : Evolves floor allowed first second)
    (secondEvolves : Evolves floor allowed second third) :
    Evolves floor allowed first third := by
  -- A member that is filled in owns only new numbers, so what becomes of it later,
  -- changed or filled in again, is filled in as seen from the start.
  induction first using Declaration.ownedInduction
    generalizing allowed second third with
  | node info children signatures parameters childrenHold _ _ =>
      obtain ⟨firstRelinked, firstSignatures, firstParameters, firstMembers⟩ :=
        evolves_iff.mp firstEvolves
      obtain ⟨secondRelinked, secondSignatures, secondParameters,
        secondMembers⟩ := evolves_iff.mp secondEvolves
      obtain ⟨firstLe, firstEach, firstNew⟩ :=
        membersEvolve_iff.mp firstMembers
      obtain ⟨secondLe, secondEach, secondNew⟩ :=
        membersEvolve_iff.mp secondMembers
      refine evolves_iff.mpr ⟨firstRelinked.trans secondRelinked,
        secondSignatures.trans firstSignatures,
        secondParameters.trans firstParameters,
        membersEvolve_iff.mpr ⟨Nat.le_trans firstLe secondLe, ?_, ?_⟩⟩
      · intro offset child last found lastFound
        have inside : offset < second.children.length :=
          Nat.lt_of_lt_of_le (List.getElem?_eq_some_iff.mp found).1 firstLe
        have middleFound := List.getElem?_eq_getElem inside
        have isChild : child ∈ children := List.mem_of_getElem? found
        rcases firstEach offset child _ found middleFound with
            childEvolves | ⟨isAllowed, filled⟩
        · rcases secondEach offset _ last middleFound lastFound with
              lastEvolves | ⟨isAllowed, filled⟩
          · exact .inl (childrenHold child isChild childEvolves lastEvolves)
          · exact .inr ⟨isAllowed, filled.after_evolves childEvolves⟩
        · rcases secondEach offset _ last middleFound lastFound with
              lastEvolves | ⟨-, filledAgain⟩
          · exact .inr ⟨isAllowed, filled.before_evolves lastEvolves⟩
          · exact .inr ⟨isAllowed, filled.trans filledAgain⟩
      · intro offset last beyond lastFound
        by_cases inside : offset < second.children.length
        · have middleFound := List.getElem?_eq_getElem inside
          exact (firstNew offset _ beyond middleFound).evolves
            (secondEach offset _ last middleFound lastFound)
        · exact secondNew offset last (Nat.le_of_not_lt inside) lastFound

/-! ## Steps that a tree may take -/

/-- Information may be relinked. -/
theorem evolves_of_updateInfo
    {change : Info → Info}
    {declaration : Declaration}
    (relinked : Relinked declaration.info (change declaration.info)) :
    Evolves floor allowed declaration (declaration.updateInfo change) := by
  cases declaration
  exact evolves_iff.mpr ⟨relinked, rfl, rfl, membersEvolve_refl 0 _⟩

/-- Members and groups may change together. -/
theorem evolves_of_regrouped
    {before after : Declaration}
    (regrouped : Regrouped before after)
    (members : MembersEvolve floor allowed 0 before.children after.children) :
    Evolves floor allowed before after := by
  exact evolves_iff.mpr
    ⟨regrouped.relinked, regrouped.signatures_eq, regrouped.parameters_eq, members⟩

theorem membersEvolve_concat
    {new : Declaration}
    (isNew : Appended floor new)
    (members : List Declaration) :
    MembersEvolve floor allowed 0 members (members ++ [new]) := by
  refine membersEvolve_iff.mpr ⟨by simp, ?_, ?_⟩
  · intro offset child changed found changedFound
    rw [List.getElem?_append_left (List.getElem?_eq_some_iff.mp found).1]
      at changedFound
    obtain rfl : child = changed :=
      Option.some.inj (found.symm.trans changedFound)
    exact .inl (evolves_refl child)
  · intro offset child beyond found
    rw [List.getElem?_append_right beyond] at found
    obtain rfl : child = new :=
      List.mem_singleton.mp (List.mem_of_getElem? found)
    exact isNew

theorem membersEvolve_set
    {members : List Declaration}
    {position : Nat}
    {own changed : Declaration}
    (found : members[position]? = some own)
    (evolves : MemberEvolves floor allowed position own changed) :
    MembersEvolve floor allowed 0 members (members.set position changed) := by
  obtain ⟨inside, -⟩ := List.getElem?_eq_some_iff.mp found
  refine membersEvolve_iff.mpr ⟨by simp, ?_, ?_⟩
  · intro offset child other childFound otherFound
    by_cases same : position = offset
    · subst same
      rw [List.getElem?_set_self inside] at otherFound
      cases otherFound
      cases found.symm.trans childFound
      rwa [Nat.zero_add]
    · rw [List.getElem?_set_ne same] at otherFound
      obtain rfl : child = other :=
        Option.some.inj (childFound.symm.trans otherFound)
      exact .inl (evolves_refl child)
  · intro offset child beyond childFound
    have outside : (members.set position changed)[offset]? = none :=
      List.getElem?_eq_none (by simpa using beyond)
    rw [outside] at childFound
    cases childFound

/-- A tree changes when one of its descendants does. -/
theorem evolves_replaceAt
    {root found replacement : Declaration}
    {path : Path}
    (leads : root.descendant? path = some found)
    (evolves :
      Evolves floor (fun below => allowed (path ++ below)) found replacement) :
    Evolves floor allowed root (root.replaceAt replacement path) := by
  induction path generalizing root allowed with
  | nil =>
      cases leads
      exact evolves
  | cons index rest inductionHypothesis =>
      obtain ⟨child, isChild, below⟩ :=
        Declaration.descendant?_cons_eq_some_iff.mp leads
      rw [Declaration.replaceAt_cons isChild]
      have childEvolves :
          Evolves floor (fun path => allowed (index :: path)) child
            (child.replaceAt replacement rest) :=
        inductionHypothesis below evolves
      have members := membersEvolve_set isChild (.inl childEvolves)
      cases root
      exact evolves_iff.mpr ⟨.refl _, rfl, rfl, members⟩

end ApiTree.Decl
