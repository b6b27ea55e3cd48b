import ApiTree.Proofs.Hierarchy.Reference
import Mathlib.Data.List.Forall2

namespace ApiTree.Decl

/-!
# Members up to the numbers of copies

A member that was copied is what it is a copy of, except that some of its numbers
are new.  Entering members into a class keeps its members those that the
reference has, up to such numbers.
-/

namespace Declaration

/-- The declaration under another number. -/
def withId
    (number : DeclId)
    (declaration : Declaration) :
    Declaration :=
  declaration.updateInfo fun info => { info with id := number }

/-- Renaming gives the new number another name. -/
theorem rename_withId
    (names : DeclId → DeclId)
    (number : DeclId)
    (declaration : Declaration) :
    (declaration.withId number).rename names =
      (declaration.rename names).withId (names number) := by
  cases declaration
  simp [withId, rename, updateInfo, mapInfo_node, renameInfo]

theorem withId_withId
    (first second : DeclId)
    (declaration : Declaration) :
    (declaration.withId first).withId second = declaration.withId second := by
  cases declaration
  rfl

theorem withId_id (declaration : Declaration) :
    declaration.withId declaration.id = declaration := by
  cases declaration
  rfl

@[simp] theorem id_withId
    (number : DeclId)
    (declaration : Declaration) :
    (declaration.withId number).id = number := by
  cases declaration
  rfl

end Declaration

/-- That numbers stay as they are or become new ones. -/
def NamesNew
    (next : Nat)
    (names : DeclId → DeclId) :
    Prop :=
  ∀ number, names number = number ∨ next ≤ names number

/-- New names given one after the other are new names. -/
theorem NamesNew.comp
    {next : Nat}
    {first second : DeclId → DeclId}
    (secondNew : NamesNew next second)
    (firstNew : NamesNew next first) :
    NamesNew next (second ∘ first) := by
  intro number
  rcases secondNew (first number) with stays | isNew
  · rw [Function.comp_apply, stays]
    exact firstNew number
  · exact .inr isNew

/-- The names given by numbering are new. -/
theorem Declaration.NumbersNext.namesNew
    {supply rest : IdSupply}
    {old new : List DeclId}
    {numbers : Renumbering}
    {next : Nat}
    (numbering : Declaration.NumbersNext supply rest old new numbers)
    (nextLe : next ≤ supply.next) :
    NamesNew next numbers.apply := by
  intro number
  cases looked : numbers.reverse.lookup number with
  | none =>
      exact .inl (by simp [Renumbering.apply, looked])
  | some fresh =>
      have listed := Declaration.mem_of_lookup_eq_some looked
      rw [List.mem_reverse, numbering.numbers_eq] at listed
      have isNew := numbering.le_of_mem (List.of_mem_zip listed).2
      refine .inr ?_
      simp only [Renumbering.apply, looked]
      exact Nat.le_trans nextLe isNew

/--
What a member is, up to the numbers of copies.  Numbers at or above the given
one are new.
-/
structure Matches
    (next : Nat)
    (expected actual : Declaration) :
    Prop where
  /-- The member has new numbers in place of some. -/
  renamed : ∃ names, NamesNew next names ∧
    actual = (expected.rename names).withId actual.id
  /-- Its own number stays or is new. -/
  id_eq : actual.id = expected.id ∨ next ≤ actual.id
  /-- It is not changed at all if it was not inherited. -/
  own : expected.info.inheritedFrom = none → actual = expected

namespace Matches

variable
    {next : Nat}
    {expected actual : Declaration}

theorem refl (declaration : Declaration) :
    Matches next declaration declaration := by
  refine ⟨⟨fun number => number, fun _ => .inl rfl, ?_⟩, .inl rfl, fun _ => rfl⟩
  rw [Declaration.rename_id, Declaration.withId_id]

/-- At its top a matching member differs in its number and in groups. -/
theorem info_eq
    (isMatch : Matches next expected actual) :
    ∃ groups, actual.info =
      { expected.info with id := actual.id, groups := groups } := by
  obtain ⟨names, -, shape⟩ := isMatch.renamed
  refine ⟨(Declaration.renameInfo names expected.info).groups, ?_⟩
  rw [shape]
  simp [Declaration.withId, Declaration.rename, Declaration.renameInfo]

theorem name_eq
    (isMatch : Matches next expected actual) :
    actual.name = expected.name := by
  obtain ⟨groups, infoEq⟩ := isMatch.info_eq
  rw [Declaration.name, infoEq]
  rfl

theorem hasSummary_eq
    (isMatch : Matches next expected actual) :
    actual.info.hasSummary = expected.info.hasSummary := by
  obtain ⟨groups, infoEq⟩ := isMatch.info_eq
  rw [infoEq]
  rfl

/-- A matching member was first declared in the same place. -/
theorem originOf_eq
    (isMatch : Matches next expected actual)
    (ancestorName : String) :
    Injecting.originOf ancestorName actual =
      Injecting.originOf ancestorName expected := by
  cases origin : expected.info.inheritedFrom with
  | none =>
      rw [isMatch.own origin]
  | some link =>
      obtain ⟨groups, infoEq⟩ := isMatch.info_eq
      have sameOrigin : actual.info.inheritedFrom = some link := by
        rw [infoEq]
        exact origin
      simp [Injecting.originOf, origin, sameOrigin]

end Matches

namespace Injecting

variable
    {next : Nat}
    {expected actual expectedOwn own : Declaration}

/-- Marking a renamed member as inherited is renaming a marked one. -/
theorem stamp_rename
    (origin : Link)
    (names : DeclId → DeclId)
    (number : DeclId)
    (declaration : Declaration) :
    stamp origin ((declaration.rename names).withId number) =
      ((stamp origin declaration).rename names).withId number := by
  cases declaration
  simp [stamp, Declaration.withId, Declaration.rename, Declaration.updateInfo,
    Declaration.mapInfo_node, Declaration.renameInfo]

theorem stamp_renamedTo
    (origin : Link)
    (own member : Declaration) :
    stamp origin (renamedTo own member) =
      (stamp origin member).withId own.id := by
  cases member
  rfl

/-- The copy of a member matches the member that the reference adds. -/
theorem matches_copyOf
    (isMatch : Matches next expected actual)
    (ancestorName : String)
    {supply : IdSupply}
    (distinct : actual.ids.Nodup)
    (nextLe : next ≤ supply.next) :
    Matches next (stamp (originOf ancestorName expected) expected)
      (copyOf ancestorName supply actual) := by
  have numbering := Declaration.numbersNext_assign actual supply
  obtain ⟨names, namesNew, shape⟩ := isMatch.renamed
  have shape_eq :
      copyOf ancestorName supply actual =
        ((stamp (originOf ancestorName expected) expected).rename
          ((actual.assign supply).2.1.apply ∘ names)).withId
            ((actual.assign supply).2.1.apply actual.id) := by
    rw [copyOf, Declaration.renumber_eq_rename distinct,
      isMatch.originOf_eq ancestorName, ← stamp_rename,
      ← Declaration.rename_rename, ← Declaration.rename_withId, ← shape]
  refine ⟨⟨_, (numbering.namesNew nextLe).comp namesNew, ?_⟩, ?_, ?_⟩
  · rw [shape_eq, Declaration.id_withId]
  · rw [shape_eq, Declaration.id_withId, id_stamp]
    rcases numbering.namesNew nextLe actual.id with stays | isNew
    · rw [stays]
      exact isMatch.id_eq
    · exact .inr isNew
  · intro origin
    rw [inheritedFrom_stamp] at origin
    cases origin

/-- What fills in a member matches what takes its place in the reference. -/
theorem matches_fillingOf
    (isMatch : Matches next expected actual)
    (ownMatch : Matches next expectedOwn own)
    (ancestorName : String)
    {supply : IdSupply}
    (distinct : actual.ids.Nodup)
    (nextLe : next ≤ supply.next) :
    Matches next
      (stamp (originOf ancestorName expected) (renamedTo expectedOwn expected))
      (fillingOf ancestorName supply own actual) := by
  have numbering :=
    Declaration.numbersNext_assignOwned (renamedTo own actual) supply
  have ownedDistinct := nodup_ownedIds_renamedTo distinct own
  obtain ⟨names, namesNew, shape⟩ := isMatch.renamed
  -- The member keeps the number of the one that it fills in, whatever its own was.
  have renamedActual :
      renamedTo own actual = (expected.rename names).withId own.id := by
    rw [shape]
    exact Declaration.withId_withId _ _ _
  have shape_eq :
      fillingOf ancestorName supply own actual =
        ((stamp (originOf ancestorName expected)
          (renamedTo expectedOwn expected)).rename
            (((renamedTo own actual).assignOwned supply).2.1.apply ∘
              names)).withId own.id := by
    rw [fillingOf, Declaration.renumberOwned_eq_rename ownedDistinct,
      isMatch.originOf_eq ancestorName]
    generalize ((renamedTo own actual).assignOwned supply).2.1.apply = fresh
    show stamp _ (((renamedTo own actual).rename fresh).withId
      (renamedTo own actual).id) = _
    rw [id_renamedTo, renamedActual, Declaration.rename_withId,
      Declaration.rename_rename, Declaration.withId_withId, stamp_rename,
      stamp_renamedTo, Declaration.rename_withId, Declaration.withId_withId]
  refine ⟨⟨_, (numbering.namesNew nextLe).comp namesNew, ?_⟩, ?_, ?_⟩
  · rw [shape_eq, Declaration.id_withId]
  · rw [shape_eq, Declaration.id_withId, id_stamp, id_renamedTo]
    exact ownMatch.id_eq
  · intro origin
    rw [inheritedFrom_stamp] at origin
    cases origin

/-! ## Lists of members -/

variable
    {expectedMembers actualMembers : List Declaration}

/-- Matching members have their names at the same positions. -/
theorem memberPosition?_eq
    (members : List.Forall₂ (Matches next) expectedMembers actualMembers)
    (name : String) :
    memberPosition? name actualMembers =
      memberPosition? name expectedMembers := by
  induction members with
  | nil =>
      rfl
  | cons first _ inductionHypothesis =>
      simp only [memberPosition?] at inductionHypothesis ⊢
      rw [List.findIdx?_cons, List.findIdx?_cons, first.name_eq,
        inductionHypothesis]

/-- At the position of a member the reference has one that it matches. -/
theorem exists_expected
    (members : List.Forall₂ (Matches next) expectedMembers actualMembers)
    {position : Nat}
    (found : actualMembers[position]? = some own) :
    ∃ expectedOwn, expectedMembers[position]? = some expectedOwn ∧
      Matches next expectedOwn own := by
  induction members generalizing position with
  | nil =>
      cases found
  | cons first _ inductionHypothesis =>
      cases position with
      | zero =>
          cases found
          exact ⟨_, rfl, first⟩
      | succ position =>
          exact inductionHypothesis found

theorem matches_set
    (members : List.Forall₂ (Matches next) expectedMembers actualMembers)
    (position : Nat)
    (isMatch : Matches next expected actual) :
    List.Forall₂ (Matches next) (expectedMembers.set position expected)
      (actualMembers.set position actual) := by
  induction members generalizing position with
  | nil =>
      exact .nil
  | cons first rest inductionHypothesis =>
      cases position with
      | zero =>
          exact .cons isMatch rest
      | succ position =>
          exact .cons first (inductionHypothesis position)

/-- Entering a member does what the reference does. -/
theorem Enters.matches
    {ancestorName : String}
    {before after : Injecting}
    (enters : Enters ancestorName before actual after)
    (running : before.failure = none)
    (isMatch : Matches next expected actual)
    (grouped : actual.info.classify ≠ none)
    (distinct : actual.ids.Nodup)
    (nextLe : next ≤ before.supply.next)
    (members :
      List.Forall₂ (Matches next) expectedMembers before.target.children) :
    after.failure = none ∧
      List.Forall₂ (Matches next)
        (Hierarchy.enter ancestorName expectedMembers expected)
        after.target.children := by
  have samePosition := memberPosition?_eq members actual.name
  rw [isMatch.name_eq] at samePosition
  cases enters with
  | halted failed => exact (failed running).elim
  | refused _ _ ungrouped => exact (grouped ungrouped).elim
  | stands position own _ first found documented same =>
      obtain ⟨expectedOwn, expectedFound, ownMatch⟩ :=
        exists_expected members found
      rw [isMatch.name_eq, samePosition] at first
      rw [ownMatch.hasSummary_eq] at documented
      subst same
      refine ⟨running, ?_⟩
      simp only [Hierarchy.enter, first, expectedFound, documented, ↓reduceIte]
      exact members
  | appends group _ absent _ _ children_eq _ _ _ runs =>
      rw [isMatch.name_eq, samePosition] at absent
      refine ⟨runs, ?_⟩
      simp only [Hierarchy.enter, absent]
      rw [children_eq]
      exact List.rel_append members
        (.cons (matches_copyOf isMatch ancestorName distinct nextLe) .nil)
  | fills position own _ first found undocumented _ children_eq _ _ _ runs =>
      obtain ⟨expectedOwn, expectedFound, ownMatch⟩ :=
        exists_expected members found
      rw [isMatch.name_eq, samePosition] at first
      rw [ownMatch.hasSummary_eq] at undocumented
      refine ⟨runs, ?_⟩
      simp only [Hierarchy.enter, first, expectedFound, undocumented,
        Bool.false_eq_true, ↓reduceIte]
      rw [children_eq]
      exact matches_set members position
        (matches_fillingOf isMatch ownMatch ancestorName distinct nextLe)

/-- Entering members does what the reference does with the members they match. -/
theorem matches_foldl_inject
    {expectedReceived received : List Declaration}
    (eachMatch : List.Forall₂ (Matches next) expectedReceived received)
    (grouped : ∀ member ∈ received, member.info.classify ≠ none)
    (distinct : ∀ member ∈ received, member.ids.Nodup)
    (ancestorName : String)
    {before : Injecting}
    (running : before.failure = none)
    (nextLe : next ≤ before.supply.next)
    (members :
      List.Forall₂ (Matches next) expectedMembers before.target.children) :
    (received.foldl (inject ancestorName) before).failure = none ∧
      List.Forall₂ (Matches next)
        (expectedReceived.foldl (Hierarchy.enter ancestorName) expectedMembers)
        (received.foldl (inject ancestorName) before).target.children := by
  induction eachMatch generalizing before expectedMembers with
  | nil =>
      exact ⟨running, members⟩
  | @cons expected actual _ _ isMatch _ inductionHypothesis =>
      have enters := enters_inject ancestorName before actual
      obtain ⟨runs, entered⟩ :=
        enters.matches running isMatch (grouped actual List.mem_cons_self)
          (distinct actual List.mem_cons_self) nextLe members
      exact inductionHypothesis
        (fun member inRest => grouped member (List.mem_cons_of_mem _ inRest))
        (fun member inRest => distinct member (List.mem_cons_of_mem _ inRest))
        runs (Nat.le_trans nextLe enters.covers_target.le) entered

end Injecting

end ApiTree.Decl
