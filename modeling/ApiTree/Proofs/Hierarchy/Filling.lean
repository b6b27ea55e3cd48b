import ApiTree.Proofs.Hierarchy.Evolution

namespace ApiTree.Decl

/-!
# What is filled in

What stood at a path of a tree that evolves is found there afterwards unless
something around it was filled in.  If something around it was, it is no longer
in the tree: what was filled in owns nothing but new declarations.
-/

variable
    {floor : Nat}
    {allowed : Path → Prop}

/-! ## What is found at a path -/

/-- What stays of a declaration: its number, its name and its documentation. -/
structure Kept (before after : Declaration) : Prop where
  id_eq : after.id = before.id
  name_eq : after.name = before.name
  comment_eq : before.info.hasSummary = true →
    after.info.comment = before.info.comment

/-- A declaration that evolves is kept. -/
theorem kept_of_evolves
    {before after : Declaration}
    (evolves : Evolves floor allowed before after) :
    Kept before after := by
  obtain ⟨relinked, -⟩ := evolves_iff.mp evolves
  exact ⟨relinked.id_eq, relinked.name_eq, fun _ => relinked.comment_eq⟩

theorem FilledIn.kept
    {before after : Declaration}
    (filled : FilledIn floor before after) :
    Kept before after := by
  refine ⟨filled.id_eq, filled.name_eq, ?_⟩
  intro documented
  rw [filled.undocumented] at documented
  cases documented

/-- What stood at a path stands there afterwards. -/
def StaysAt
    (before after : Declaration)
    (path : Path) :
    Prop :=
  ∃ declared kept,
    before.descendant? path = some declared ∧
      after.descendant? path = some kept ∧
        Kept declared kept

/-- What stood at a path was filled in, as a member of an owner that allows it. -/
def FilledAt
    (floor : Nat)
    (allowed : Path → Prop)
    (before after : Declaration)
    (path : Path) :
    Prop :=
  ∃ owner index declared filled,
    path = owner ++ [index] ∧
      allowed owner ∧
      before.descendant? path = some declared ∧
      after.descendant? path = some filled ∧
      FilledIn floor declared filled

/-- What is filled in below a member is filled in below its owner. -/
theorem FilledAt.below
    {before after child changed : Declaration}
    {index : Nat}
    {path : Path}
    (childFound : before.children[index]? = some child)
    (changedFound : after.children[index]? = some changed)
    (filledAt :
      FilledAt floor (fun path => allowed (index :: path)) child changed path) :
    FilledAt floor allowed before after (index :: path) := by
  obtain ⟨owner, last, declared, filled, rfl, isAllowed, leads, filledLeads,
    isFilled⟩ := filledAt
  refine ⟨index :: owner, last, declared, filled, rfl, isAllowed, ?_, ?_,
    isFilled⟩
  · exact Declaration.descendant?_cons_eq_some_iff.mpr
      ⟨child, childFound, leads⟩
  · exact Declaration.descendant?_cons_eq_some_iff.mpr
      ⟨changed, changedFound, filledLeads⟩

/--
What is found at a path evolves on its own, unless it or something around it was
filled in.
-/
theorem evolves_descendant?
    {before after found : Declaration}
    {path : Path}
    (evolves : Evolves floor allowed before after)
    (leads : before.descendant? path = some found) :
    (∃ changed, after.descendant? path = some changed ∧
        Evolves floor (fun below => allowed (path ++ below)) found changed) ∨
      ∃ front, front <+: path ∧ FilledAt floor allowed before after front := by
  induction path generalizing before after allowed with
  | nil =>
      cases leads
      exact .inl ⟨after, rfl, evolves⟩
  | cons index rest inductionHypothesis =>
      obtain ⟨child, childFound, leadsOn⟩ :=
        Declaration.descendant?_cons_eq_some_iff.mp leads
      obtain ⟨-, -, -, members⟩ := evolves_iff.mp evolves
      obtain ⟨lengthLe, each, -⟩ := membersEvolve_iff.mp members
      have inside : index < after.children.length :=
        Nat.lt_of_lt_of_le (List.getElem?_eq_some_iff.mp childFound).1 lengthLe
      have changedFound := List.getElem?_eq_getElem inside
      have changes := each index child _ childFound changedFound
      rw [Nat.zero_add] at changes
      rcases changes with childEvolves | ⟨isAllowed, filled⟩
      · rcases inductionHypothesis childEvolves leadsOn with
            ⟨changed, leadsAfter, foundEvolves⟩ | ⟨front, isFront, filledAt⟩
        · refine .inl ⟨changed, ?_, foundEvolves⟩
          exact Declaration.descendant?_cons_eq_some_iff.mpr
            ⟨_, changedFound, leadsAfter⟩
        · refine .inr ⟨index :: front, ?_,
            filledAt.below childFound changedFound⟩
          exact List.cons_prefix_cons.mpr ⟨rfl, isFront⟩
      · refine .inr ⟨[index], ?_, [], index, child, _, rfl, isAllowed, ?_, ?_,
          filled⟩
        · exact List.cons_prefix_cons.mpr ⟨rfl, List.nil_prefix⟩
        · exact Declaration.descendant?_cons_eq_some_iff.mpr
            ⟨child, childFound, rfl⟩
        · exact Declaration.descendant?_cons_eq_some_iff.mpr
            ⟨_, changedFound, rfl⟩

/-- That something around a path was filled in. -/
def FilledAround
    (floor : Nat)
    (allowed : Path → Prop)
    (before after : Declaration)
    (path : Path) :
    Prop :=
  ∃ front, front <+: path ∧ front ≠ path ∧
    FilledAt floor allowed before after front

/-- Everything on the way to a path stays unless something around it was filled in. -/
theorem staysAt_of_not_filledAround
    {before after found : Declaration}
    {path front : Path}
    (evolves : Evolves floor allowed before after)
    (leads : before.descendant? path = some found)
    (notFilled : ¬ FilledAround floor allowed before after path)
    (isFront : front <+: path) :
    StaysAt before after front := by
  obtain ⟨declared, declaredLeads⟩ :=
    Declaration.exists_descendant?_of_prefix leads isFront
  rcases evolves_descendant? evolves declaredLeads with
      ⟨changed, changedLeads, declaredEvolves⟩ | ⟨outer, isOuter, filledAt⟩
  · exact ⟨declared, changed, declaredLeads, changedLeads,
      kept_of_evolves declaredEvolves⟩
  · by_cases isWhole : outer = path
    · obtain rfl : front = path :=
        isFront.eq_of_length_le (isWhole ▸ isOuter.length_le)
      subst isWhole
      obtain ⟨_, _, filledFrom, filled, _, _, fromLeads, filledLeads,
        isFilled⟩ := filledAt
      exact ⟨filledFrom, filled, fromLeads, filledLeads, isFilled.kept⟩
    · exact (notFilled
        ⟨outer, isOuter.trans isFront, isWhole, filledAt⟩).elim

/-- What is found afterwards under an old number stood at the same path before. -/
theorem exists_of_evolves
    {before after changed : Declaration}
    {path : Path}
    (evolves : Evolves floor allowed before after)
    (leads : after.descendant? path = some changed)
    (isOld : changed.id < floor) :
    ∃ found, before.descendant? path = some found ∧ found.id = changed.id := by
  -- New members and what is below filled ones have new numbers only, so an old
  -- number is met along members that were there, or at the top of a filled one.
  induction path generalizing before after allowed with
  | nil =>
      cases leads
      obtain ⟨relinked, -⟩ := evolves_iff.mp evolves
      exact ⟨before, rfl, relinked.id_eq.symm⟩
  | cons index rest inductionHypothesis =>
      obtain ⟨middle, middleFound, leadsOn⟩ :=
        Declaration.descendant?_cons_eq_some_iff.mp leads
      obtain ⟨-, -, -, members⟩ := evolves_iff.mp evolves
      obtain ⟨-, each, new⟩ := membersEvolve_iff.mp members
      have inMiddle : changed.id ∈ middle.ids :=
        Declaration.ids_subset_of_descendant? leadsOn changed.id_mem_ids
      by_cases inside : index < before.children.length
      · have childFound := List.getElem?_eq_getElem inside
        rcases each index _ middle childFound middleFound with
            childEvolves | ⟨-, filled⟩
        · obtain ⟨found, foundLeads, sameId⟩ :=
            inductionHypothesis childEvolves leadsOn
          refine ⟨found, ?_, sameId⟩
          exact Declaration.descendant?_cons_eq_some_iff.mpr
            ⟨_, childFound, foundLeads⟩
        · cases rest with
          | nil =>
              cases leadsOn
              refine ⟨_, ?_, filled.id_eq.symm⟩
              exact Declaration.descendant?_cons_eq_some_iff.mpr
                ⟨_, childFound, rfl⟩
          | cons next rest =>
              have isOwned :=
                Declaration.id_mem_ownedIds_of_descendant? leadsOn (by simp)
              exact (Nat.not_lt.mpr (filled.owned_new _ isOwned) isOld).elim
      · have isNew :=
          (new index middle (Nat.le_of_not_lt inside) middleFound).all_new _
            inMiddle
        exact (Nat.not_lt.mpr isNew isOld).elim

/-- Below what was filled in no old number is found. -/
theorem FilledAround.floor_le
    {before after changed : Declaration}
    {path : Path}
    (filledAround : FilledAround floor allowed before after path)
    (leads : after.descendant? path = some changed) :
    floor ≤ changed.id := by
  obtain ⟨front, ⟨rest, rfl⟩, isProper, filledAt⟩ := filledAround
  obtain ⟨_, _, _, filled, _, _, _, filledLeads, isFilled⟩ := filledAt
  rw [Declaration.descendant?_append, filledLeads] at leads
  refine isFilled.owned_new _
    (Declaration.id_mem_ownedIds_of_descendant? leads ?_)
  intro isEmpty
  simp [isEmpty] at isProper

/-- In a numbered tree an old number is found at its old path, if at all. -/
theorem descendant?_of_reaches
    {before after declared : Declaration}
    {supply : IdSupply}
    {path : Path}
    (numbered : NumberedFrom supply before)
    (evolves : Evolves supply.next allowed before after)
    (leads : before.descendant? path = some declared)
    (reaches : after.Reaches declared.id) :
    ∃ found, after.descendant? path = some found ∧ found.id = declared.id := by
  obtain ⟨other, found, foundLeads, sameId⟩ := reaches
  have isOld : found.id < supply.next := by
    rw [sameId]
    exact numbered.below _
      (Declaration.ids_subset_of_descendant? leads declared.id_mem_ids)
  obtain ⟨earlier, earlierLeads, earlierId⟩ :=
    exists_of_evolves evolves foundLeads isOld
  obtain rfl : other = path :=
    Declaration.path_eq_of_id_eq numbered.distinct earlierLeads leads
      (earlierId.trans sameId)
  exact ⟨found, foundLeads, sameId⟩

/-- What stood below something that was filled in is found no more. -/
theorem FilledAround.not_reaches
    {before after declared : Declaration}
    {supply : IdSupply}
    {path : Path}
    (filledAround : FilledAround supply.next allowed before after path)
    (numbered : NumberedFrom supply before)
    (evolves : Evolves supply.next allowed before after)
    (leads : before.descendant? path = some declared) :
    ¬ after.Reaches declared.id := by
  intro reaches
  obtain ⟨found, foundLeads, sameId⟩ :=
    descendant?_of_reaches numbered evolves leads reaches
  have isNew := filledAround.floor_le foundLeads
  have isOld : declared.id < supply.next :=
    numbered.below _
      (Declaration.ids_subset_of_descendant? leads declared.id_mem_ids)
  rw [sameId] at isNew
  exact Nat.not_lt.mpr isNew isOld

/-- A number of one of several declarations is in no other, if none occurs twice. -/
theorem eq_of_mem_ids
    {declarations : List Declaration}
    {first second : Declaration}
    {firstIndex secondIndex : Nat}
    {number : DeclId}
    (distinct : (declarations.flatMap Declaration.ids).Nodup)
    (firstFound : declarations[firstIndex]? = some first)
    (secondFound : declarations[secondIndex]? = some second)
    (inFirst : number ∈ first.ids)
    (inSecond : number ∈ second.ids) :
    firstIndex = secondIndex := by
  obtain ⟨firstInside, rfl⟩ := List.getElem?_eq_some_iff.mp firstFound
  obtain ⟨secondInside, rfl⟩ := List.getElem?_eq_some_iff.mp secondFound
  have apart := List.pairwise_iff_getElem.mp (List.nodup_flatMap.mp distinct).2
  rcases Nat.lt_trichotomy firstIndex secondIndex with isLess | same | isMore
  · exact (apart _ _ firstInside secondInside isLess inFirst inSecond).elim
  · exact same
  · exact (apart _ _ secondInside firstInside isMore inSecond inFirst).elim

/-- What a declaration owned is not in it any more after it was filled in. -/
theorem FilledIn.not_mem_ids
    {before after declared : Declaration}
    {path : Path}
    (filled : FilledIn floor before after)
    (distinct : before.ids.Nodup)
    (leads : before.descendant? path = some declared)
    (below : path ≠ [])
    (isOld : declared.id < floor) :
    declared.id ∉ after.ids := by
  have isBelow := Declaration.id_mem_ownedIds_of_descendant? leads below
  rw [Declaration.ids_eq_cons_ownedIds] at distinct ⊢
  intro member
  rcases List.mem_cons.mp member with isTop | isOwned
  · refine (List.nodup_cons.mp distinct).1 ?_
    rw [← show declared.id = before.id from isTop.trans filled.id_eq]
    exact isBelow
  · exact Nat.not_le.mpr isOld (filled.owned_new _ isOwned)

/-- What is filled in around a path is its first member, or is inside that member. -/
theorem FilledAround.inside
    {before after child changed : Declaration}
    {index : Nat}
    {rest : Path}
    (filledAround : FilledAround floor allowed before after (index :: rest))
    (childFound : before.children[index]? = some child)
    (changedFound : after.children[index]? = some changed) :
    rest ≠ [] ∧
      (FilledIn floor child changed ∨
        FilledAround floor (fun path => allowed (index :: path)) child changed
          rest) := by
  obtain ⟨_, isFront, isProper, owner, last, declared, filled, rfl, isAllowed,
    leads, filledLeads, isFilled⟩ := filledAround
  cases owner with
  | nil =>
      obtain ⟨rfl, -⟩ := List.cons_prefix_cons.mp isFront
      rw [List.nil_append, Declaration.descendant?_singleton] at leads filledLeads
      obtain rfl : declared = child :=
        Option.some.inj (leads.symm.trans childFound)
      obtain rfl : filled = changed :=
        Option.some.inj (filledLeads.symm.trans changedFound)
      refine ⟨?_, .inl isFilled⟩
      rintro rfl
      exact isProper rfl
  | cons first owner =>
      obtain ⟨rfl, isInside⟩ := List.cons_prefix_cons.mp isFront
      rw [List.cons_append, Declaration.descendant?, childFound] at leads
      rw [List.cons_append, Declaration.descendant?, changedFound] at filledLeads
      refine ⟨?_, .inr ⟨owner ++ [last], isInside, ?_, owner, last, declared,
        filled, rfl, isAllowed, leads, filledLeads, isFilled⟩⟩
      · rintro rfl
        exact List.concat_ne_nil _ _ (List.prefix_nil.mp isInside)
      · rintro rfl
        exact isProper rfl

/-- What stood below something that was filled in is not in the tree any more. -/
theorem FilledAround.not_mem_ids
    {before after declared : Declaration}
    {path : Path}
    (filledAround : FilledAround floor allowed before after path)
    (distinct : before.ids.Nodup)
    (evolves : Evolves floor allowed before after)
    (leads : before.descendant? path = some declared)
    (isOld : declared.id < floor) :
    declared.id ∉ after.ids := by
  -- The induction follows the path.  An old number occurs only in the member that
  -- the path leads through, and there only until the filled member is reached.
  induction path generalizing before after allowed with
  | nil =>
      obtain ⟨front, isFront, isProper, -⟩ := filledAround
      exact (isProper (List.prefix_nil.mp isFront)).elim
  | cons index rest inductionHypothesis =>
      obtain ⟨child, childFound, leadsOn⟩ :=
        Declaration.descendant?_cons_eq_some_iff.mp leads
      obtain ⟨relinked, signaturesEq, parametersEq, members⟩ :=
        evolves_iff.mp evolves
      obtain ⟨lengthLe, each, new⟩ := membersEvolve_iff.mp members
      have inChild : declared.id ∈ child.ids :=
        Declaration.ids_subset_of_descendant? leadsOn declared.id_mem_ids
      rw [Declaration.ids_eq_cons_ownedIds, Declaration.ownedIds_eq] at distinct
      obtain ⟨notTop, ownedDistinct⟩ := List.nodup_cons.mp distinct
      obtain ⟨childrenDistinct, -, apart⟩ := List.nodup_append.mp ownedDistinct
      have inChildren :
          declared.id ∈ before.children.flatMap Declaration.ids :=
        List.mem_flatMap.mpr
          ⟨child, List.mem_of_getElem? childFound, inChild⟩
      have childDistinct : child.ids.Nodup :=
        (List.nodup_flatMap.mp childrenDistinct).1 child
          (List.mem_of_getElem? childFound)
      intro member
      rw [Declaration.ids_eq_cons_ownedIds, Declaration.ownedIds_eq,
        signaturesEq, parametersEq] at member
      rcases List.mem_cons.mp member with isTop | isOwned
      · refine notTop (List.mem_append_left _ ?_)
        rw [← show declared.id = before.id from isTop.trans relinked.id_eq]
        exact inChildren
      rcases List.mem_append.mp isOwned with inChanged | inRest
      · obtain ⟨changed, isChanged, inThat⟩ := List.mem_flatMap.mp inChanged
        obtain ⟨offset, changedFound⟩ := List.getElem?_of_mem isChanged
        by_cases inside : offset < before.children.length
        · have otherFound := List.getElem?_eq_getElem inside
          have changes := each offset _ changed otherFound changedFound
          have inOther : declared.id ∈ (before.children[offset]).ids :=
            (changes.mem_ids inThat).resolve_right (Nat.not_le.mpr isOld)
          obtain rfl : index = offset :=
            eq_of_mem_ids childrenDistinct childFound otherFound inChild inOther
          obtain rfl : child = before.children[index] :=
            Option.some.inj (childFound.symm.trans otherFound)
          obtain ⟨below, filled | filledInside⟩ :=
            filledAround.inside childFound changedFound
          · exact filled.not_mem_ids childDistinct leadsOn below isOld inThat
          · rcases changes with childEvolves | ⟨-, filled⟩
            · rw [Nat.zero_add] at childEvolves
              exact inductionHypothesis filledInside childDistinct childEvolves
                leadsOn inThat
            · exact filled.not_mem_ids childDistinct leadsOn below isOld inThat
        · exact Nat.not_le.mpr isOld
            ((new offset changed (Nat.le_of_not_lt inside) changedFound).all_new
              _ inThat)
      · exact apart _ inChildren _ inRest rfl

end ApiTree.Decl
