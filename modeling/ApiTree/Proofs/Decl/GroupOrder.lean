import ApiTree.Decl.Grouping
import Mathlib.Data.List.Chain
import Mathlib.Data.List.Perm.Subperm
import Mathlib.Data.String.Basic

namespace ApiTree.Decl

/-!
# The order of groups and entries

Entries are sorted by the names that they stand for.  The comparison of titles is not
transitive, so insertion brings only neighbours into order; this is enough for a second
run to find nothing to do.  It is not enough for well-known titles to stand in their
order: another title may keep two of them apart.
-/

/-! ## Comparing titles -/

theorem positionOf?_eq
    {α : Type}
    [DecidableEq α]
    (wanted : α)
    (elements : List α) :
    positionOf? wanted elements =
      if wanted ∈ elements then some (elements.idxOf wanted) else none := by
  induction elements with
  | nil =>
      rfl
  | cons first rest inductionHypothesis =>
      rw [positionOf?, inductionHypothesis, List.idxOf_cons]
      by_cases isFirst : first = wanted
      · simp [isFirst]
      · have inRest : wanted ∈ first :: rest ↔ wanted ∈ rest := by
          simp [Ne.symm isFirst]
        have differs : (first == wanted) = false := beq_false_of_ne isFirst
        by_cases isMember : wanted ∈ rest <;> simp [inRest, differs, isMember]

theorem compareTitles_of_mem
    {first second : String}
    (firstKnown : first ∈ titleOrder)
    (secondKnown : second ∈ titleOrder) :
    compareTitles first second =
      compare (titleOrder.idxOf first) (titleOrder.idxOf second) := by
  rw [compareTitles, positionOf?_eq, positionOf?_eq, if_pos firstKnown,
    if_pos secondKnown]

theorem compareTitles_of_not_mem
    {first second : String}
    (other : first ∉ titleOrder ∨ second ∉ titleOrder) :
    compareTitles first second = compare first second := by
  rw [compareTitles, positionOf?_eq, positionOf?_eq]
  rcases other with firstOther | secondOther
  · rw [if_neg firstOther]
  · rw [if_neg secondOther]
    split <;> trivial

/-- Of two titles that are compared both ways the results are opposite. -/
theorem swap_compareTitles (first second : String) :
    (compareTitles first second).swap = compareTitles second first := by
  by_cases known : first ∈ titleOrder ∧ second ∈ titleOrder
  · rw [compareTitles_of_mem known.1 known.2, compareTitles_of_mem known.2 known.1,
      ← Std.OrientedOrd.eq_swap]
  · have other := not_and_or.mp known
    rw [compareTitles_of_not_mem other, compareTitles_of_not_mem other.symm,
      ← Std.OrientedOrd.eq_swap]

/-- That a group may stand right before another. -/
def Group.MayPrecede (first second : Group) : Prop :=
  compareTitles first.title second.title ≠ .gt

/-- Of two groups one may stand before the other. -/
theorem Group.mayPrecede_of_gt
    {first second : Group}
    (greater : compareTitles first.title second.title = .gt) :
    second.MayPrecede first := by
  rw [MayPrecede, ← swap_compareTitles, greater]
  decide

theorem Group.mayPrecede_iff_of_mem
    {first second : Group}
    (firstKnown : first.title ∈ titleOrder)
    (secondKnown : second.title ∈ titleOrder) :
    first.MayPrecede second ↔
      titleOrder.idxOf first.title ≤ titleOrder.idxOf second.title := by
  rw [MayPrecede, compareTitles_of_mem firstKnown secondKnown]
  exact compare_le_iff_le

theorem Group.mayPrecede_iff_of_not_mem
    {first second : Group}
    (other : first.title ∉ titleOrder ∨ second.title ∉ titleOrder) :
    first.MayPrecede second ↔ first.title ≤ second.title := by
  rw [MayPrecede, compareTitles_of_not_mem other]
  exact compare_le_iff_le

/-! ## Insertion -/

theorem perm_insertLeft
    (group : Group)
    (groups : List Group) :
    (insertLeft group groups).Perm (group :: groups) := by
  induction groups with
  | nil =>
      exact .refl _
  | cons last earlier inductionHypothesis =>
      unfold insertLeft
      split
      · exact (inductionHypothesis.cons last).trans (.swap _ _ _)
      · exact .refl _

/-- Insertion leaves the groups that are there in their order. -/
theorem sublist_insertLeft
    (group : Group)
    (groups : List Group) :
    groups.Sublist (insertLeft group groups) := by
  induction groups with
  | nil =>
      exact .cons group .slnil
  | cons last earlier inductionHypothesis =>
      unfold insertLeft
      split
      · exact inductionHypothesis.cons_cons last
      · exact .cons group (.refl _)

/-- A group that may follow the last one is put at the end. -/
theorem insertLeft_eq_cons
    {group : Group}
    {groups : List Group}
    (follows : ∀ last ∈ groups.head?, last.MayPrecede group) :
    insertLeft group groups = group :: groups := by
  cases groups with
  | nil =>
      rfl
  | cons last earlier =>
      rw [insertLeft, if_neg (follows last rfl)]

/-- Insertion ends with the group or with the group that was the last one. -/
theorem eq_or_mem_head?_of_insertLeft
    {group last : Group}
    {groups : List Group}
    (isLast : last ∈ (insertLeft group groups).head?) :
    last = group ∨ last ∈ groups.head? := by
  cases groups with
  | nil =>
      exact .inl (Option.some.inj isLast).symm
  | cons formerLast earlier =>
      rw [insertLeft] at isLast
      split at isLast
      · exact .inr isLast
      · exact .inl (Option.some.inj isLast).symm

/--
Insertion keeps neighbours in order.  The group comes to stand between one that it had
to pass, and so may precede, and one that may precede it.
-/
theorem isChain_insertLeft
    {group : Group}
    {groups : List Group}
    (chain : groups.IsChain fun later earlier => earlier.MayPrecede later) :
    (insertLeft group groups).IsChain fun later earlier => earlier.MayPrecede later := by
  induction groups with
  | nil =>
      exact .singleton group
  | cons last earlier inductionHypothesis =>
      obtain ⟨beforeLast, earlierChain⟩ := List.isChain_cons.mp chain
      rw [insertLeft]
      split
      · rename_i passes
        refine List.isChain_cons.mpr ⟨?_, inductionHypothesis earlierChain⟩
        intro next isNext
        rcases eq_or_mem_head?_of_insertLeft isNext with rfl | isEarlier
        · exact Group.mayPrecede_of_gt passes
        · exact beforeLast next isEarlier
      · rename_i stays
        refine List.isChain_cons.mpr ⟨?_, chain⟩
        rintro next ⟨⟩
        exact stays

/-! ## Sorted groups -/

/-- Ordering groups gives the same groups. -/
theorem perm_sortGroups (groups : List Group) :
    (sortGroups groups).Perm groups := by
  refine (List.reverse_perm _).trans ?_
  induction groups using List.reverseRecOn with
  | nil =>
      exact .refl _
  | append_singleton earlier last inductionHypothesis =>
      rw [List.foldl_append, List.foldl_cons, List.foldl_nil]
      refine (perm_insertLeft last _).trans ?_
      exact (inductionHypothesis.cons last).trans
        (List.perm_append_singleton last earlier).symm

/-- No group stands right behind one that it has to precede. -/
theorem isChain_sortGroups (groups : List Group) :
    (sortGroups groups).IsChain Group.MayPrecede :=
  List.isChain_reverse.mpr <|
    List.foldlRecOn groups _ .nil fun _ chain _ _ => isChain_insertLeft chain

/-- Groups whose neighbours are in order stay as they are. -/
theorem sortGroups_eq_self
    {groups : List Group}
    (chain : groups.IsChain Group.MayPrecede) :
    sortGroups groups = groups := by
  rw [sortGroups, List.reverse_eq_iff]
  induction groups using List.reverseRecOn with
  | nil =>
      rfl
  | append_singleton earlier last inductionHypothesis =>
      obtain ⟨earlierChain, -, lastFollows⟩ := List.isChain_append.mp chain
      rw [List.foldl_append, List.foldl_cons, List.foldl_nil,
        inductionHypothesis earlierChain, List.reverse_append]
      refine insertLeft_eq_cons fun previous isPrevious => ?_
      rw [List.head?_reverse] at isPrevious
      exact lastFollows previous isPrevious last rfl

/-- Groups that come later do not move those that are already in place. -/
theorem sublist_sortGroups_append (groups later : List Group) :
    (sortGroups groups).Sublist (sortGroups (groups ++ later)) := by
  rw [sortGroups, sortGroups, List.foldl_append]
  refine List.Sublist.reverse ?_
  exact List.foldlRecOn later _ (.refl _) fun sorted isSublist group _ =>
    isSublist.trans (sublist_insertLeft group sorted)

/-! ## Sorted entries -/

namespace Declaration

variable
    (declaration : Declaration)

/-- Whether an entry need not stand behind another. -/
def nameLE (first second : DeclId) : Bool :=
  !(declaration.entryName second < declaration.entryName first)

theorem nameLE_iff {first second : DeclId} :
    declaration.nameLE first second ↔
      declaration.entryName first ≤ declaration.entryName second := by
  rw [nameLE, Bool.not_eq_true', decide_eq_false_iff_not, not_lt]

theorem nameLE_trans (first second third : DeclId)
    (firstLE : declaration.nameLE first second)
    (secondLE : declaration.nameLE second third) :
    declaration.nameLE first third := by
  rw [nameLE_iff] at *
  exact firstLE.trans secondLE

theorem nameLE_total (first second : DeclId) :
    (declaration.nameLE first second || declaration.nameLE second first) = true := by
  rw [Bool.or_eq_true, nameLE_iff, nameLE_iff]
  exact le_total _ _

/-- Entries are sorted by the names alone. -/
theorem sortEntries_eq (entries : List DeclId) :
    declaration.sortEntries entries = entries.mergeSort declaration.nameLE := by
  have keyed := List.map_mergeSort (r := declaration.nameLE)
    (s := fun first second => !(second.1 < first.1))
    (f := fun entry => (declaration.entryName entry, entry)) (l := entries)
    fun _ _ _ _ => rfl
  rw [sortEntries, ← keyed, List.map_map]
  exact List.map_id _

theorem perm_sortEntries (entries : List DeclId) :
    (declaration.sortEntries entries).Perm entries := by
  rw [sortEntries_eq]
  exact List.mergeSort_perm _ _

theorem pairwise_sortEntries (entries : List DeclId) :
    (declaration.sortEntries entries).Pairwise fun first second =>
      declaration.entryName first ≤ declaration.entryName second := by
  rw [sortEntries_eq]
  exact (List.pairwise_mergeSort declaration.nameLE_trans declaration.nameLE_total
    entries).imp (declaration.nameLE_iff).mp

theorem sortEntries_eq_self
    {entries : List DeclId}
    (sorted : entries.Pairwise fun first second =>
      declaration.entryName first ≤ declaration.entryName second) :
    declaration.sortEntries entries = entries := by
  rw [sortEntries_eq]
  exact List.mergeSort_of_pairwise (sorted.imp (declaration.nameLE_iff).mpr)

/-- Entries that stand for one name keep their order. -/
theorem filter_sortEntries
    (entries : List DeclId)
    (name : String) :
    (declaration.sortEntries entries).filter (declaration.entryName · = name) =
      entries.filter (declaration.entryName · = name) := by
  have ofName : (entries.filter (declaration.entryName · = name)).Pairwise fun first second =>
      declaration.nameLE first second := by
    rw [List.pairwise_filter]
    refine List.pairwise_of_forall fun first second firstName secondName => ?_
    rw [nameLE_iff, of_decide_eq_true firstName, of_decide_eq_true secondName]
  have kept := (List.sublist_mergeSort declaration.nameLE_trans declaration.nameLE_total
    ofName List.filter_sublist).filter (declaration.entryName · = name)
  rw [List.filter_filter, ← sortEntries_eq] at kept
  simp only [Bool.and_self] at kept
  exact (kept.eq_of_length
    ((declaration.perm_sortEntries entries).filter _).length_eq.symm).symm

/-! ## Sorted members -/

/-- A group with its entries sorted. -/
def sortGroup (group : Group) : Group :=
  { group with entries := declaration.sortEntries group.entries }

theorem groups_sortMembers :
    declaration.sortMembers.info.groups =
      sortGroups (declaration.info.groups.map declaration.sortGroup) := by
  cases declaration
  rfl

/-- Sorting changes the groups of the declaration and nothing else. -/
theorem sortMembers_eq_updateInfo :
    declaration.sortMembers = declaration.updateInfo fun info =>
      { info with groups := declaration.sortMembers.info.groups } := by
  cases declaration
  rfl

/-- Sorting leaves the members alone, and with them what entries stand for. -/
theorem sortGroup_sortMembers :
    declaration.sortMembers.sortGroup = declaration.sortGroup := by
  cases declaration
  rfl

/-- That a group has the entries of another, sorted by the names they stand for. -/
structure SortsByName (before after : Group) : Prop where
  title_eq : after.title = before.title
  perm : after.entries.Perm before.entries
  ordered : after.entries.Pairwise fun first second =>
    declaration.entryName first ≤ declaration.entryName second
  stable : ∀ name,
    after.entries.filter (declaration.entryName · = name) =
      before.entries.filter (declaration.entryName · = name)

theorem sortsByName_sortGroup (group : Group) :
    declaration.SortsByName group (declaration.sortGroup group) where
  title_eq := rfl
  perm := declaration.perm_sortEntries group.entries
  ordered := declaration.pairwise_sortEntries group.entries
  stable := declaration.filter_sortEntries group.entries

/-- A second run finds all entries and all groups in order. -/
theorem sortMembers_sortMembers :
    declaration.sortMembers.sortMembers = declaration.sortMembers := by
  have entriesStay : declaration.sortMembers.info.groups.map declaration.sortGroup =
      declaration.sortMembers.info.groups := by
    refine (List.map_congr_left fun group isGroup => ?_).trans (List.map_id' _)
    rw [groups_sortMembers] at isGroup
    obtain ⟨before, -, rfl⟩ := List.mem_map.mp ((perm_sortGroups _).subset isGroup)
    rw [sortGroup, sortGroup, declaration.sortEntries_eq_self
      (declaration.pairwise_sortEntries before.entries)]
  have groupsStay : declaration.sortMembers.sortMembers.info.groups =
      declaration.sortMembers.info.groups := by
    rw [groups_sortMembers, sortGroup_sortMembers, entriesStay]
    rw [groups_sortMembers]
    exact sortGroups_eq_self (isChain_sortGroups _)
  rw [sortMembers_eq_updateInfo declaration.sortMembers, groupsStay]
  cases declaration
  rfl

/--
Sorting the members of a declaration changes nothing but its groups.  These are the
groups that were there, each with its entries sorted by the names they stand for, equal
names in their old order; no group stands right behind one that it has to precede; and
sorting once more changes nothing.
-/
theorem sortMembers_rearranges_groups :
    ∃ arranged sorted,
      declaration.sortMembers =
          declaration.updateInfo (fun info => { info with groups := sorted }) ∧
        List.Forall₂ declaration.SortsByName declaration.info.groups arranged ∧
        sorted.Perm arranged ∧
        sorted.IsChain (fun first second =>
          compareTitles first.title second.title ≠ .gt) ∧
        declaration.sortMembers.sortMembers = declaration.sortMembers := by
  refine ⟨declaration.info.groups.map declaration.sortGroup,
    declaration.sortMembers.info.groups, declaration.sortMembers_eq_updateInfo,
    ?_, ?_, ?_, declaration.sortMembers_sortMembers⟩
  · exact List.forall₂_map_right_iff.mpr
      (List.forall₂_same.mpr fun group _ => declaration.sortsByName_sortGroup group)
  · rw [groups_sortMembers]
    exact perm_sortGroups _
  · rw [groups_sortMembers]
    exact isChain_sortGroups _

end Declaration

/-! ## Well-known titles -/

/-- That well-known titles stand in the order of their list. -/
def InTitleOrder (groups : List Group) : Prop :=
  groups.Pairwise fun first second =>
    first.title ∈ titleOrder → second.title ∈ titleOrder →
      titleOrder.idxOf first.title ≤ titleOrder.idxOf second.title

instance (groups : List Group) : Decidable (InTitleOrder groups) :=
  inferInstanceAs (Decidable (groups.Pairwise _))

/--
That a title lies, by its characters, between two well-known ones that the list of
titles has the other way round.
-/
structure KeepsApart (other first second : String) : Prop where
  first_mem : first ∈ titleOrder
  second_mem : second ∈ titleOrder
  reversed : titleOrder.idxOf second < titleOrder.idxOf first
  other_notMem : other ∉ titleOrder
  first_lt : first < other
  lt_second : other < second

/-- That no title of some groups keeps two others apart. -/
def Unseparated (groups : List Group) : Prop :=
  ∀ first ∈ groups, ∀ other ∈ groups, ∀ second ∈ groups,
    ¬KeepsApart other.title first.title second.title

/--
Behind a well-known title only later ones of the list follow.  The induction runs over
the groups that follow; the last of those that were passed is the well-known one itself
or one with another title, which is greater.
-/
theorem idxOf_le_of_isChain
    {groups : List Group}
    (unseparated : Unseparated groups)
    {known last : Group}
    {rest : List Group}
    (isGroup : known ∈ groups)
    (areGroups : last :: rest ⊆ groups)
    (isKnown : known.title ∈ titleOrder)
    (isPassed : last = known ∨
      last.title ∉ titleOrder ∧ known.title < last.title)
    (chain : (last :: rest).IsChain Group.MayPrecede) :
    ∀ later ∈ rest, later.title ∈ titleOrder →
      titleOrder.idxOf known.title ≤ titleOrder.idxOf later.title := by
  induction rest generalizing known last with
  | nil =>
      intro later isLater
      cases isLater
  | cons next rest inductionHypothesis =>
      obtain ⟨lastPrecedes, restChain⟩ := List.isChain_cons_cons.mp chain
      obtain ⟨lastIsGroup, restAreGroups⟩ := List.cons_subset.mp areGroups
      have nextIsGroup : next ∈ groups := restAreGroups List.mem_cons_self
      by_cases nextKnown : next.title ∈ titleOrder
      · have knownLE : titleOrder.idxOf known.title ≤ titleOrder.idxOf next.title := by
          rcases isPassed with rfl | ⟨lastOther, knownLT⟩
          · exact (Group.mayPrecede_iff_of_mem isKnown nextKnown).mp lastPrecedes
          · have lastLE := (Group.mayPrecede_iff_of_not_mem (.inl lastOther)).mp lastPrecedes
            have lastNE : last.title ≠ next.title := fun same =>
              lastOther (same ▸ nextKnown)
            refine Nat.not_lt.mp fun reversed =>
              unseparated known isGroup last lastIsGroup next nextIsGroup ?_
            exact ⟨isKnown, nextKnown, reversed, lastOther, knownLT,
              lt_of_le_of_ne lastLE lastNE⟩
        intro later isLater laterKnown
        rcases List.mem_cons.mp isLater with rfl | inRest
        · exact knownLE
        · exact knownLE.trans (inductionHypothesis nextIsGroup restAreGroups nextKnown
            (.inl rfl) restChain later inRest laterKnown)
      · -- The next title is another one as well, and it is greater, too.
        have knownLT : known.title < next.title := by
          have lastLE := (Group.mayPrecede_iff_of_not_mem (.inr nextKnown)).mp lastPrecedes
          rcases isPassed with rfl | ⟨-, knownLT⟩
          · exact lt_of_le_of_ne lastLE fun same => nextKnown (same ▸ isKnown)
          · exact lt_of_lt_of_le knownLT lastLE
        intro later isLater laterKnown
        rcases List.mem_cons.mp isLater with rfl | inRest
        · exact absurd laterKnown nextKnown
        · exact inductionHypothesis isGroup restAreGroups isKnown
            (.inr ⟨nextKnown, knownLT⟩) restChain later inRest laterKnown

/-- Groups whose neighbours are in order stand in title order if no title keeps two apart. -/
theorem inTitleOrder_of_isChain
    {groups : List Group}
    (unseparated : Unseparated groups)
    {sorted : List Group}
    (areGroups : sorted ⊆ groups)
    (chain : sorted.IsChain Group.MayPrecede) :
    InTitleOrder sorted := by
  induction sorted with
  | nil =>
      exact .nil
  | cons first rest inductionHypothesis =>
      refine List.pairwise_cons.mpr ⟨fun later isLater firstKnown => ?_, ?_⟩
      · exact idxOf_le_of_isChain unseparated (areGroups List.mem_cons_self) areGroups
          firstKnown (.inl rfl) chain later isLater
      · exact inductionHypothesis (List.cons_subset.mp areGroups).2 chain.tail

/-- The three titles of such a case, put first, stay in this order. -/
theorem not_inTitleOrder_of_keepsApart
    {first other second : Group}
    (keepsApart : KeepsApart other.title first.title second.title)
    (rest : List Group) :
    ¬InTitleOrder (sortGroups ([first, other, second] ++ rest)) := by
  have chain : [first, other, second].IsChain Group.MayPrecede := by
    refine .cons_cons ?_ (.cons_cons ?_ (.singleton second))
    · exact (Group.mayPrecede_iff_of_not_mem (.inr keepsApart.other_notMem)).mpr
        keepsApart.first_lt.le
    · exact (Group.mayPrecede_iff_of_not_mem (.inl keepsApart.other_notMem)).mpr
        keepsApart.lt_second.le
  have inPlace := sublist_sortGroups_append [first, other, second] rest
  rw [sortGroups_eq_self chain] at inPlace
  intro inOrder
  obtain ⟨beforeSecond, -⟩ := List.pairwise_cons.mp (inOrder.sublist inPlace)
  exact Nat.not_le.mpr keepsApart.reversed
    (beforeSecond second (by simp) keepsApart.first_mem keepsApart.second_mem)

namespace Declaration

/-- The declaration with other groups. -/
def withGroups
    (declaration : Declaration)
    (groups : List Group) :
    Declaration :=
  declaration.updateInfo fun info => { info with groups := groups }

theorem groups_sortMembers_withGroups
    (declaration : Declaration)
    (groups : List Group) :
    (declaration.withGroups groups).sortMembers.info.groups =
      sortGroups (groups.map declaration.sortGroup) := by
  cases declaration
  rfl

/--
In whatever order the groups of a declaration come, sorting puts those with well-known
titles into the order of the list of titles, if and only if no other title among them
lies, by its characters, between two well-known ones that the list has the other way
round.
-/
theorem inTitleOrder_iff_unseparated (declaration : Declaration) :
    (∀ groups, groups.Perm declaration.info.groups →
      InTitleOrder (declaration.withGroups groups).sortMembers.info.groups) ↔
      Unseparated declaration.info.groups := by
  constructor
  · -- The three groups are put first, in the order in which they stay.
    intro inOrder first isFirst other isOther second isSecond keepsApart
    have distinct : [first, other, second].Nodup := by
      have firstNE : first.title ≠ other.title := keepsApart.first_lt.ne
      have otherNE : other.title ≠ second.title := keepsApart.lt_second.ne
      have endsNE : first.title ≠ second.title :=
        (keepsApart.first_lt.trans keepsApart.lt_second).ne
      simp only [List.nodup_cons, List.mem_cons, List.not_mem_nil, or_false, not_or,
        List.nodup_nil, not_false_eq_true, and_true]
      exact ⟨⟨fun same => firstNE (congrArg _ same), fun same => endsNE (congrArg _ same)⟩,
        fun same => otherNE (congrArg _ same)⟩
    have included : [first, other, second] ⊆ declaration.info.groups := by
      simp [isFirst, isOther, isSecond]
    obtain ⟨three, areThree, areGroups⟩ := List.Nodup.subperm distinct included
    obtain ⟨rest, rearranged⟩ := areGroups.exists_perm_append
    have sorted := inOrder _ (rearranged.trans (areThree.append_right rest)).symm
    rw [groups_sortMembers_withGroups, List.map_append] at sorted
    have sortedKeepsApart : KeepsApart (declaration.sortGroup other).title
        (declaration.sortGroup first).title (declaration.sortGroup second).title :=
      keepsApart
    exact not_inTitleOrder_of_keepsApart sortedKeepsApart _ sorted
  · intro unseparated groups rearranged
    have sortedUnseparated :
        Unseparated (declaration.info.groups.map declaration.sortGroup) := by
      simp only [Unseparated, List.forall_mem_map]
      exact unseparated
    have sameGroups := (perm_sortGroups _).trans (rearranged.map declaration.sortGroup)
    rw [groups_sortMembers_withGroups]
    exact inTitleOrder_of_isChain sortedUnseparated sameGroups.subset (isChain_sortGroups _)

/-- A class with an enumeration, a method that goes with the helpers, and a property. -/
def helperClass : Declaration :=
  .node
    { id := 1, name := "Queue", kind := .classDecl,
      groups := [⟨"Constants", [2]⟩, ⟨"Helpers", [3]⟩, ⟨"Properties", [4]⟩] }
    [ .ofInfo { id := 2, name := "Mode", kind := .enumeration },
      .ofInfo
        { id := 3, name := "drain", kind := .method,
          decorators := [⟨"docs_group", some "(\"Helpers\")"⟩] },
      .ofInfo { id := 4, name := "size", kind := .property } ]
    [] []

/-- Properties come before constants in the list of titles, but helpers keep them apart. -/
theorem title_order_is_lost :
    ¬∀ declaration : Declaration, InTitleOrder declaration.sortMembers.info.groups := by
  intro inOrder
  exact absurd (inOrder helperClass) (by decide +kernel)

end Declaration

end ApiTree.Decl
