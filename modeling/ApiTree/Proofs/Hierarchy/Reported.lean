import ApiTree.Proofs.Decl.Words
import ApiTree.Proofs.Hierarchy.Attribution
import ApiTree.Proofs.Hierarchy.Covering

namespace ApiTree.Decl

/-!
# Copies that are reported

A run reports each node that it copies with the number of the copy.  A tree may be
copied again, and what fills in a member may be replaced later; still every number that
the run takes from the supply is reported once, in order, and with it the number of the
node that the copy was made of.  So what is reported can be gone through once from the
front: each number that something was copied from is known by then.
-/

namespace Injecting

variable
    {ancestorName : String}
    {before after : Injecting}
    {member : Declaration}

/--
That a member of a class is a copy of another declaration, and that two nodes of one and
the other stand at the same place and have the numbers of a pair.
-/
def Clones
    (injecting : Injecting)
    (member : Declaration)
    (pair : DeclId × DeclId) :
    Prop :=
  ∃ copy ∈ injecting.target.children,
    copy.likeness = member.likeness ∧ pair ∈ member.ids.zip copy.ids

/-- That entering a member takes the next numbers for copies of some nodes, and reports them. -/
structure ReportsClones
    (before : Injecting)
    (member : Declaration)
    (after : Injecting)
    (old : List DeclId)
    (numbers : Renumbering) :
    Prop where
  copies_eq : after.copies = before.copies ++ numbers
  numbering : Declaration.NumbersNext before.supply after.supply old
    (numbers.map (·.2)) numbers
  included : old ⊆ member.ids
  clones : ∀ pair ∈ numbers, Clones after member pair

theorem ReportsClones.nothing
    (copies_eq : after.copies = before.copies)
    (supply_eq : after.supply = before.supply) :
    ReportsClones before member after [] [] where
  copies_eq := by rw [copies_eq, List.append_nil]
  numbering := supply_eq ▸ .nil _
  included := List.nil_subset _
  clones _ isPair := (List.not_mem_nil isPair).elim

theorem ids_copyOf
    (ancestorName : String)
    (supply : IdSupply)
    (member : Declaration) :
    (copyOf ancestorName supply member).ids = (member.assign supply).1.ids := by
  rw [copyOf, stamp, Declaration.ids_updateInfo _ rfl]
  exact Declaration.ids_renameGroups _ _

theorem ownedIds_fillingOf
    (ancestorName : String)
    (supply : IdSupply)
    (own member : Declaration) :
    (fillingOf ancestorName supply own member).ownedIds =
      ((renamedTo own member).assignOwned supply).1.ownedIds := by
  rw [fillingOf, stamp, Declaration.ownedIds_updateInfo]
  exact Declaration.ownedIds_renameGroups _ _

/-- Entering a member reports the nodes that it copies. -/
theorem Enters.reportsClones
    (enters : Enters ancestorName before member after)
    (distinct : member.ids.Nodup) :
    ∃ old numbers, ReportsClones before member after old numbers := by
  cases enters with
  | halted _ same => exact ⟨[], [], .nothing (same ▸ rfl) (same ▸ rfl)⟩
  | stands _ _ _ _ _ _ same => exact ⟨[], [], .nothing (same ▸ rfl) (same ▸ rfl)⟩
  | refused _ _ _ same => exact ⟨[], [], .nothing (same ▸ rfl) (same ▸ rfl)⟩
  | appends _ _ _ _ _ children_eq supply_eq _ copies_eq =>
      have numbering := Declaration.numbersNext_assign member before.supply
      rw [Declaration.copies_renumber distinct] at copies_eq
      refine ⟨member.ids, _, copies_eq, ?_, List.Subset.refl _, ?_⟩
      · rw [numbering.pairs.map_snd_eq]
        exact supply_eq ▸ numbering
      · intro pair isPair
        rw [numbering.numbers_eq, ← ids_copyOf ancestorName] at isPair
        exact ⟨_, by rw [children_eq]; exact List.mem_append_right _ List.mem_cons_self,
          likeness_copyOf _ _ member, isPair⟩
  | fills position own _ _ found _ _ children_eq supply_eq _ copies_eq =>
      have numbering :=
        Declaration.numbersNext_assignOwned (renamedTo own member) before.supply
      rw [Declaration.copies_renumberOwned (nodup_ownedIds_renamedTo distinct own)]
        at copies_eq
      obtain ⟨inside, -⟩ := List.getElem?_eq_some_iff.mp found
      refine ⟨(renamedTo own member).ownedIds, _, copies_eq, ?_, ?_, ?_⟩
      · rw [numbering.pairs.map_snd_eq]
        exact supply_eq ▸ numbering
      · rw [ownedIds_renamedTo]
        exact member.ownedIds_subset_ids
      · intro pair isPair
        rw [numbering.numbers_eq, ownedIds_renamedTo, ← ownedIds_fillingOf ancestorName]
          at isPair
        refine ⟨_, by rw [children_eq]; exact List.mem_set inside _,
          likeness_fillingOf _ _ own member, ?_⟩
        -- The numbers at the top are no pair: what fills in a member keeps its number.
        rw [Declaration.ids_eq_cons_ownedIds, Declaration.ids_eq_cons_ownedIds,
          List.zip_cons_cons]
        exact List.mem_cons_of_mem _ isPair

end Injecting

namespace Hierarchy

open Inheriting

/--
That a run makes a copy of a node when it enters the member that the node is in, and these
are the numbers of the node and of the copy.
-/
def ClonesDuring
    (root : Declaration)
    (supply : IdSupply)
    (edges : List Edge)
    (pair : DeclId × DeclId) :
    Prop :=
  ∃ classPath ancestorName before member,
    EntersAt root supply edges classPath ancestorName before member ∧
    pair.2 ∉ before.target.ids ∧ (before.inject ancestorName member).Clones member pair

/-- What a run has reported: the numbers that it took, and what was copied under them. -/
structure Reports
    (root : Declaration)
    (supply : IdSupply)
    (edges : List Edge)
    (now : IdSupply)
    (copies : Renumbering) :
    Prop where
  next_le : supply.next ≤ now.next
  /-- The copies have the numbers that were taken, each once, in increasing order. -/
  issued : copies.map (·.2) = List.range' supply.next (now.next - supply.next)
  /-- Each copy is reported with the node that it was made of. -/
  cloned : ∀ pair ∈ copies, ClonesDuring root supply edges pair
  /-- That node was in the tree before the run, or it is a copy that is reported earlier. -/
  earlier : ∀ (position : Nat) (pair : DeclId × DeclId), copies[position]? = some pair →
    pair.1 ∈ root.ids ∨
      ∃ before < position, ∃ other : DeclId × DeclId,
        copies[before]? = some other ∧ other.2 = pair.1

namespace Reports

variable
    {root : Declaration}
    {supply now rest : IdSupply}
    {edges : List Edge}
    {copies numbers : Renumbering}
    {old new : List DeclId}

/-- At first nothing is taken and nothing reported. -/
theorem nil
    (root : Declaration)
    (supply : IdSupply)
    (edges : List Edge) :
    Reports root supply edges supply [] where
  next_le := Nat.le_refl _
  issued := by simp
  cloned _ isPair := (List.not_mem_nil isPair).elim
  earlier _ _ isPair := by simp at isPair

/-- A number that was taken is reported. -/
theorem mem_of_taken
    (reports : Reports root supply edges now copies)
    {number : DeclId}
    (isTaken : supply.next ≤ number ∧ number < now.next) :
    number ∈ copies.map (·.2) := by
  rw [reports.issued, List.mem_range'_1, Nat.add_sub_cancel' reports.next_le]
  exact isTaken

/-- Copies of nodes that are known by then may be reported next. -/
theorem append
    (reports : Reports root supply edges now copies)
    (numbering : Declaration.NumbersNext now rest old new numbers)
    (known : ∀ number ∈ old, number ∈ root.ids ∨ number ∈ copies.map (·.2))
    (cloned : ∀ pair ∈ numbers, ClonesDuring root supply edges pair) :
    Reports root supply edges rest (copies ++ numbers) where
  next_le := Nat.le_trans reports.next_le numbering.covers.le
  issued := by
    have stretch : rest.next - supply.next =
        (now.next - supply.next) + old.length := by
      rw [congrArg IdSupply.next numbering.rest_eq]
      exact Nat.sub_add_comm reports.next_le
    rw [List.map_append, reports.issued, numbering.pairs.map_snd_eq, numbering.new_eq, stretch,
      ← List.range'_append_1, Nat.add_sub_cancel' reports.next_le]
  cloned := List.forall_mem_append.mpr ⟨reports.cloned, cloned⟩
  earlier := by
    intro position pair isPair
    rcases Nat.lt_or_ge position copies.length with inside | outside
    · rw [List.getElem?_append_left inside] at isPair
      refine (reports.earlier position pair isPair).imp_right ?_
      rintro ⟨before, isBefore, other, isOther, sameNumber⟩
      refine ⟨before, isBefore, other, ?_, sameNumber⟩
      rw [List.getElem?_append_left (Nat.lt_trans isBefore inside), isOther]
    · rw [List.getElem?_append_right outside] at isPair
      have isOld : pair.1 ∈ old := by
        rw [← numbering.pairs.map_fst_eq]
        exact List.mem_map_of_mem (List.mem_of_getElem? isPair)
      refine (known pair.1 isOld).imp_right fun isCopy => ?_
      obtain ⟨other, isOther, sameNumber⟩ := List.mem_map.mp isCopy
      obtain ⟨before, isBefore⟩ := List.getElem?_of_mem isOther
      obtain ⟨inside, -⟩ := List.getElem?_eq_some_iff.mp isBefore
      refine ⟨before, Nat.lt_of_lt_of_le inside outside, other, ?_, sameNumber⟩
      rw [List.getElem?_append_left inside, isBefore]

end Reports

variable
    {hierarchy : Hierarchy}
    {root : Declaration}
    {supply : IdSupply}
    {edges : List Edge}

/-- While the members of an ancestor are entered, the copies are reported. -/
theorem reports_foldl_inject
    (numbered : NumberedFrom supply root)
    {earlier later : List Edge}
    {edge : Edge}
    {ancestorPath descendantPath : Path}
    {ancestor descendant : Declaration}
    (edges_eq : edges = earlier ++ edge :: later)
    (running : (flowAlong root supply earlier).failure = none)
    (meets : Meets root.childPaths (flowAlong root supply earlier).root edge
      ancestorPath descendantPath ancestor descendant)
    (reports : Reports root supply edges (flowAlong root supply earlier).supply
      (flowAlong root supply earlier).copies)
    (entered left : List Declaration)
    (members_eq : ancestor.children = entered ++ left) :
    let now := entered.foldl (Injecting.inject ancestor.name)
      (opening (flowAlong root supply earlier) edge ancestor descendant)
    Reports root supply edges now.supply now.copies := by
  induction entered using List.reverseRecOn generalizing left with
  | nil =>
      exact reports
  | append_singleton entered member inductionHypothesis =>
      rw [List.append_assoc, List.singleton_append] at members_eq
      have reportsBefore := inductionHypothesis (member :: left) members_eq
      have entersAt := EntersAt.intro edges_eq running meets members_eq
      have isMember : member ∈ ancestor.children := by
        rw [members_eq]
        exact List.mem_append_right _ List.mem_cons_self
      have numberedNow := numberedFrom_flowAlong numbered earlier
      have distinct := Declaration.nodup_ids_of_descendant? numberedNow.distinct
        meets.ancestor_found
      have covers := Injecting.covers_foldl_inject ancestor.name entered
        (opening (flowAlong root supply earlier) edge ancestor descendant)
      have numberedBefore := (numberedFrom_opening numberedNow meets).of_covers covers
      simp only [List.foldl_append, List.foldl_cons, List.foldl_nil]
      generalize entered.foldl (Injecting.inject ancestor.name)
          (opening (flowAlong root supply earlier) edge ancestor descendant) = before
        at reportsBefore entersAt covers numberedBefore
      obtain ⟨old, numbers, reportsClones⟩ :=
        (Injecting.enters_inject ancestor.name before member).reportsClones
          (Declaration.nodup_ids_of_child distinct isMember)
      rw [reportsClones.copies_eq]
      refine reportsBefore.append reportsClones.numbering ?_ ?_
      · intro number isOld
        have inTree : number ∈ (flowAlong root supply earlier).root.ids :=
          Declaration.ids_subset_of_descendant? meets.ancestor_found
            (ancestor.ownedIds_subset_ids (Declaration.ids_subset_ownedIds isMember
              (reportsClones.included isOld)))
        rcases (covers_flowAlong root supply earlier).mem_or_taken inTree with
          wasThere | isTaken
        · exact .inl wasThere
        · exact .inr (reportsBefore.mem_of_taken
            ⟨isTaken.1, Nat.lt_of_lt_of_le isTaken.2 covers.le⟩)
      · intro pair isPair
        refine ⟨_, _, before, member, entersAt, fun wasThere => ?_,
          reportsClones.clones pair isPair⟩
        exact Nat.not_le_of_lt (numberedBefore.below pair.2 wasThere)
          (reportsClones.numbering.le_of_mem (List.mem_map_of_mem isPair))

/-- What an edge copies is reported. -/
theorem reports_flowAlong
    (numbered : NumberedFrom supply root)
    (earlier later : List Edge)
    (edges_eq : edges = earlier ++ later) :
    Reports root supply edges (flowAlong root supply earlier).supply
      (flowAlong root supply earlier).copies := by
  induction earlier using List.reverseRecOn generalizing later with
  | nil =>
      exact .nil root supply edges
  | append_singleton earlier edge inductionHypothesis =>
      rw [List.append_assoc, List.singleton_append] at edges_eq
      have reports := inductionHypothesis (edge :: later) edges_eq
      have flows :=
        flows_propagate root.childPaths (flowAlong root supply earlier) edge
      have followed {ancestorPath descendantPath : Path} {ancestor descendant : Declaration}
          (running : (flowAlong root supply earlier).failure = none)
          (meets : Meets root.childPaths (flowAlong root supply earlier).root edge
            ancestorPath descendantPath ancestor descendant)
          (supply_eq : (propagate root.childPaths (flowAlong root supply earlier)
            edge).supply =
              (received (flowAlong root supply earlier) edge ancestor descendant).supply) :
          Reports root supply edges
            (propagate root.childPaths (flowAlong root supply earlier) edge).supply
            (propagate root.childPaths (flowAlong root supply earlier) edge).copies := by
        rw [supply_eq, copies_propagate running meets]
        exact reports_foldl_inject numbered edges_eq running meets reports
          ancestor.children [] (List.append_nil _).symm
      rw [flowAlong_concat]
      cases flows with
      | halted _ same => exact same.symm ▸ reports
      | skipped _ _ same => exact same.symm ▸ reports
      | fails _ _ _ _ _ running meets _ _ supply_eq =>
          exact followed running meets supply_eq
      | flows _ _ _ _ running meets _ _ supply_eq => exact followed running meets supply_eq

/-- As long as the numbers are words, the copies have the words that a supply gives out. -/
theorem Reports.takeMany?_eq
    {now : IdSupply}
    {copies : Renumbering}
    (reports : Reports root supply edges now copies)
    (fits : now.next < UInt32.size)
    (overflow : Overflow) :
    (supply.inWords overflow).takeMany? copies.length =
      some (copies.map fun pair => UInt32.ofNat pair.2, now.inWords overflow) := by
  have length_eq : copies.length = now.next - supply.next := by
    rw [← List.length_map, reports.issued, List.length_range']
  have next_eq : supply.next + copies.length = now.next := by
    rw [length_eq, Nat.add_sub_cancel' reports.next_le]
  have isWord : supply.next < UInt32.size := Nat.lt_of_le_of_lt reports.next_le fits
  have hasRoom : (supply.inWords overflow).HasRoom copies.length := fun _ => by
    rw [IdSupply.toNat_next_inWords, Nat.mod_eq_of_lt isWord, next_eq]
    exact fits
  have words_eq : (copies.map fun pair => UInt32.ofNat pair.2) =
      (List.range' supply.next copies.length).map .ofNat := by
    rw [length_eq, ← reports.issued, List.map_map]
    rfl
  rw [WordSupply.takeMany?_inWords, if_pos hasRoom, IdSupply.takeMany_eq, next_eq, words_eq]

theorem Reports.pairwise_lt
    {now : IdSupply}
    {copies : Renumbering}
    (reports : Reports root supply edges now copies)
    (fits : now.next < UInt32.size) :
    (copies.map fun pair => UInt32.ofNat pair.2).Pairwise (· < ·) := by
  have last_eq : supply.next + (now.next - supply.next) = now.next :=
    Nat.add_sub_cancel' reports.next_le
  have words := WordSupply.pairwise_lt_words (last_eq ▸ Nat.le_of_lt fits)
  rwa [← reports.issued, List.map_map] at words

/--
When a hierarchy is resolved and the numbers do not run past the largest word, the copies
that are reported have exactly the numbers that are taken from the supply meanwhile, each
once and in increasing order, as numbers and as the words that the supply gives out.  Each
is reported with the number of the node that it was made of, which was in the tree before
or is a copy that is reported earlier.
-/
theorem copies_are_reported_as_issued
    (numbered : NumberedFrom supply root)
    (fits : (hierarchy.resolve root supply).supply.next < UInt32.size)
    (overflow : Overflow) :
    Reports root supply (schedule hierarchy.resolvedEdges)
        (hierarchy.resolve root supply).supply (hierarchy.resolve root supply).copies ∧
      (supply.inWords overflow).takeMany? (hierarchy.resolve root supply).copies.length =
        some ((hierarchy.resolve root supply).copies.map fun pair => .ofNat pair.2,
          (hierarchy.resolve root supply).supply.inWords overflow) ∧
      ((hierarchy.resolve root supply).copies.map fun pair =>
        UInt32.ofNat pair.2).Pairwise (· < ·) := by
  have reports : Reports root supply (schedule hierarchy.resolvedEdges)
      (hierarchy.resolve root supply).supply (hierarchy.resolve root supply).copies :=
    reports_flowAlong numbered _ [] (List.append_nil _).symm
  exact ⟨reports, reports.takeMany?_eq fits overflow, reports.pairwise_lt fits⟩

/-- The method of the base is copied, and what its copy owns is copied once more. -/
theorem copies_are_reported_as_issued_of_chain :
    let signature : Declaration := .ofInfo { id := 3, name := "run", kind := .callSignature }
    let run : Declaration :=
      .node
        { id := 2, name := "run", kind := .method, comment := some (.ofSummary "Runs") }
        [] [signature] []
    let root : Declaration :=
      .node { id := 0, name := "python", kind := .project }
        [ .node { id := 1, name := "Base", kind := .classDecl } [run] [] [],
          .ofInfo { id := 4, name := "Middle", kind := .classDecl },
          .node { id := 5, name := "Last", kind := .classDecl }
            [.ofInfo { id := 6, name := "run", kind := .method }] [] [] ]
        [] []
    let chain : Hierarchy :=
      { classes := [("Last", 5), ("Middle", 4), ("Base", 1)]
        edges := [⟨"Middle", 5⟩, ⟨"Base", 4⟩] }
    NumberedFrom ⟨7⟩ root ∧ (chain.resolve root ⟨7⟩).failure = none ∧
      (chain.resolve root ⟨7⟩).copies = [(2, 7), (3, 8), (8, 9)] ∧
      Reports root ⟨7⟩ (schedule chain.resolvedEdges) ⟨10⟩
        (chain.resolve root ⟨7⟩).copies ∧
      WordSupply.takeMany? 3 ⟨7, .stops⟩ = some ([7, 8, 9], ⟨10, .stops⟩) := by
  intro signature run root chain
  have numbered : NumberedFrom ⟨7⟩ root := ⟨by decide, by decide⟩
  have supply_eq : (chain.resolve root ⟨7⟩).supply = ⟨10⟩ := by decide +kernel
  have copies_eq : (chain.resolve root ⟨7⟩).copies = [(2, 7), (3, 8), (8, 9)] := by
    decide +kernel
  have fits : (chain.resolve root ⟨7⟩).supply.next < UInt32.size := by
    rw [supply_eq]
    decide
  obtain ⟨reports, taken, -⟩ := copies_are_reported_as_issued numbered fits .stops
  rw [supply_eq] at reports
  rw [supply_eq, copies_eq] at taken
  exact ⟨numbered, by decide +kernel, copies_eq, reports, taken⟩

end Hierarchy

end ApiTree.Decl
