import ApiTree.Decl.Hierarchy
import Mathlib.Data.List.Nodup
import Mathlib.Logic.Relation

namespace ApiTree.Decl.Hierarchy

/-!
# The order in which members flow

A depth-first visit leaves each node after all that it leads to.  It adds every
node that it has not seen once, and without cycles no edge leads from a node that
was left earlier to one that was left later.  So members flow into a class after
they have flowed into all that the class extends.
-/

/-- That no node leads back to itself. -/
def Acyclic (edges : List Edge) : Prop :=
  ∀ node, ¬ Relation.TransGen (fun first second => (first, second) ∈ edges)
    node node

/-! ## Endpoints and successors -/

theorem mem_successors_iff
    {edges : List Edge}
    {first second : DeclId} :
    second ∈ successors edges first ↔ (first, second) ∈ edges := by
  simp [successors]

/-- An element that is inserted is there afterwards, and so is all that was. -/
theorem mem_insertLast_iff
    {elements : List DeclId}
    {element other : DeclId} :
    other ∈ insertLast elements element ↔ other ∈ elements ∨ other = element := by
  unfold insertLast
  split
  · rename_i isThere
    constructor
    · exact .inl
    · rintro (member | rfl)
      · exact member
      · exact isThere
  · simp

/-- The endpoints are the nodes at either end of an edge. -/
theorem mem_endpoints_iff
    {edges : List Edge}
    {node : DeclId} :
    node ∈ endpoints edges ↔ ∃ edge ∈ edges, node = edge.1 ∨ node = edge.2 := by
  have each (known : List DeclId) :
      node ∈ edges.foldl
          (fun known edge => insertLast (insertLast known edge.1) edge.2)
          known ↔
        node ∈ known ∨ ∃ edge ∈ edges, node = edge.1 ∨ node = edge.2 := by
    induction edges generalizing known with
    | nil =>
        simp
    | cons first rest inductionHypothesis =>
        rw [List.foldl_cons, inductionHypothesis, mem_insertLast_iff,
          mem_insertLast_iff]
        simp only [List.mem_cons, exists_eq_or_imp, or_assoc]
  have fromEmpty := each []
  simp only [List.not_mem_nil, false_or] at fromEmpty
  exact fromEmpty

/-! ## Visits -/

/-- What a depth-first visit of some nodes makes of what was seen and left. -/
inductive Visits
    (edges : List Edge) :
    List DeclId → Visit → Visit → Prop where
  /-- There is nothing to visit. -/
  | done
      (visit : Visit) :
      Visits edges [] visit visit
  /-- A node that was seen is passed. -/
  | passes
      {node : DeclId}
      {rest : List DeclId}
      {before after : Visit}
      (seen : node ∈ before.seen)
      (others : Visits edges rest before after) :
      Visits edges (node :: rest) before after
  /-- A node is entered, all below it is visited, and the node is left. -/
  | enters
      {node : DeclId}
      {rest : List DeclId}
      {before below after : Visit}
      (unseen : node ∉ before.seen)
      (inside : Visits edges (successors edges node)
        { before with seen := node :: before.seen } below)
      (others : Visits edges rest
        { below with left := node :: below.left } after) :
      Visits edges (node :: rest) before after

/-- What a visit adds: the newly left nodes, none of which was seen before. -/
structure Adds
    (nodes : List DeclId)
    (before after : Visit)
    (new : List DeclId) :
    Prop where
  left_eq : after.left = new ++ before.left
  distinct : new.Nodup
  unseen : ∀ node ∈ new, node ∉ before.seen
  seen_iff : ∀ node, node ∈ after.seen ↔ node ∈ new ∨ node ∈ before.seen
  visited : ∀ node ∈ nodes, node ∈ after.seen

namespace Visits

variable
    {edges : List Edge}
    {nodes : List DeclId}
    {before after : Visit}

/-- Every visit adds some nodes. -/
theorem exists_adds
    (visits : Visits edges nodes before after) :
    ∃ new, Adds nodes before after new := by
  -- A node that is entered stands between what is left below it and after it.
  induction visits with
  | done visit =>
      exact ⟨[], rfl, List.nodup_nil, by simp, by simp, by simp⟩
  | passes seen others othersHold =>
      obtain ⟨new, adds⟩ := othersHold
      refine ⟨new, adds.left_eq, adds.distinct, adds.unseen, adds.seen_iff, ?_⟩
      intro other member
      rcases List.mem_cons.mp member with rfl | inRest
      · exact (adds.seen_iff _).mpr (.inr seen)
      · exact adds.visited other inRest
  | @enters node rest before below after unseen inside others insideHolds
      othersHold =>
      obtain ⟨inner, innerAdds⟩ := insideHolds
      obtain ⟨outer, outerAdds⟩ := othersHold
      have innerUnseen (other : DeclId) (member : other ∈ inner) :
          other ≠ node ∧ other ∉ before.seen := by
        have unseenBoth := innerAdds.unseen other member
        rwa [List.mem_cons, not_or] at unseenBoth
      have belowSeen (other : DeclId) :
          other ∈ below.seen ↔
            other ∈ inner ∨ other = node ∨ other ∈ before.seen := by
        rw [innerAdds.seen_iff other, List.mem_cons]
      have outerUnseen (other : DeclId) (member : other ∈ outer) :
          other ∉ below.seen :=
        outerAdds.unseen other member
      refine ⟨outer ++ node :: inner, ?_, ?_, ?_, ?_, ?_⟩
      · rw [outerAdds.left_eq, innerAdds.left_eq]
        simp
      · refine List.nodup_append.mpr ⟨outerAdds.distinct,
          List.nodup_cons.mpr ⟨?_, innerAdds.distinct⟩, ?_⟩
        · intro member
          exact (innerUnseen node member).1 rfl
        · intro other inOuter second inInner same
          refine outerUnseen other inOuter ((belowSeen other).mpr ?_)
          rw [same]
          rcases List.mem_cons.mp inInner with isNode | member
          · exact .inr (.inl isNode)
          · exact .inl member
      · intro other member
        rcases List.mem_append.mp member with inOuter | inInner
        · exact fun seen => outerUnseen other inOuter
            ((belowSeen other).mpr (.inr (.inr seen)))
        · rcases List.mem_cons.mp inInner with rfl | inInner
          · exact unseen
          · exact (innerUnseen other inInner).2
      · intro other
        rw [outerAdds.seen_iff other]
        show other ∈ outer ∨ other ∈ below.seen ↔ _
        rw [belowSeen other]
        simp only [List.mem_append, List.mem_cons]
        tauto
      · intro other member
        rcases List.mem_cons.mp member with rfl | inRest
        · refine (outerAdds.seen_iff _).mpr (.inr ?_)
          exact (belowSeen _).mpr (.inr (.inl rfl))
        · exact outerAdds.visited other inRest

theorem seen_subset
    (visits : Visits edges nodes before after) :
    before.seen ⊆ after.seen := by
  obtain ⟨new, adds⟩ := visits.exists_adds
  exact fun node seen => (adds.seen_iff node).mpr (.inr seen)

end Visits

/-! ## Enough depth -/

/-- How many nodes of a region were not seen yet. -/
def unseenCount
    (region : List DeclId)
    (visit : Visit) :
    Nat :=
  region.countP (· ∉ visit.seen)

theorem unseenCount_le
    (region : List DeclId)
    {before after : Visit}
    (seenSubset : before.seen ⊆ after.seen) :
    unseenCount region after ≤ unseenCount region before := by
  refine List.countP_mono_left ?_
  intro node _ unseen
  simp only [decide_eq_true_eq] at unseen ⊢
  exact fun seen => unseen (seenSubset seen)

/-- Entering a node leaves fewer unseen. -/
theorem unseenCount_lt
    {region : List DeclId}
    {visit : Visit}
    {node : DeclId}
    (member : node ∈ region)
    (unseen : node ∉ visit.seen) :
    unseenCount region { visit with seen := node :: visit.seen } <
      unseenCount region visit := by
  obtain ⟨front, back, rfl⟩ := List.append_of_mem member
  have around (nodes : List DeclId) :
      unseenCount nodes { visit with seen := node :: visit.seen } ≤
        unseenCount nodes visit :=
    unseenCount_le nodes (List.subset_cons_self node visit.seen)
  have frontLe := around front
  have backLe := around back
  simp only [unseenCount, List.countP_append, List.countP_cons] at frontLe backLe ⊢
  simp only [List.mem_cons, true_or, not_true_eq_false, decide_false,
    Bool.false_eq_true, ↓reduceIte, unseen, not_false_eq_true, decide_true]
    at frontLe backLe ⊢
  omega

/-- With enough depth a bounded visit is a visit. -/
theorem visits_visitAll
    {edges : List Edge}
    {region : List DeclId}
    (closed : ∀ edge ∈ edges, edge.2 ∈ region)
    (depth : Nat)
    {nodes : List DeclId}
    {visit : Visit}
    (included : nodes ⊆ region)
    (enough : unseenCount region visit < depth) :
    Visits edges nodes visit (visitAll edges depth nodes visit) := by
  -- Each level down has entered one more node of the region, so that the depth
  -- cannot run out while there are unseen ones; the siblings share one depth.
  induction depth generalizing nodes visit with
  | zero =>
      exact (Nat.not_lt_zero _ enough).elim
  | succ depth deeper =>
      induction nodes generalizing visit with
      | nil =>
          exact .done visit
      | cons node rest inductionHypothesis =>
          have restIncluded : rest ⊆ region := fun other member =>
            included (List.mem_cons_of_mem _ member)
          have nodeInside : node ∈ region := included List.mem_cons_self
          by_cases seen : node ∈ visit.seen
          · have others := inductionHypothesis restIncluded enough
            simp only [visitAll, List.foldl_cons, seen, ↓reduceIte] at others ⊢
            exact .passes seen others
          · have successorsIncluded : successors edges node ⊆ region :=
              fun other member => closed _ (mem_successors_iff.mp member)
            have inside := deeper successorsIncluded
              (Nat.lt_of_lt_of_le (unseenCount_lt nodeInside seen)
                (Nat.le_of_lt_succ enough))
            have seenSubset :=
              List.Subset.trans (List.subset_cons_self node visit.seen)
                inside.seen_subset
            simp only [visitAll, List.foldl_cons, seen, ↓reduceIte]
            generalize visitAll edges depth (successors edges node) _ = below
              at inside seenSubset ⊢
            refine .enters seen inside (inductionHypothesis restIncluded ?_)
            exact Nat.lt_of_le_of_lt (unseenCount_le region seenSubset) enough

/-! ## Orders without cycles -/

/-- That all that was left leads only to what was left before it. -/
structure Settled
    (edges : List Edge)
    (visit : Visit) :
    Prop where
  left_seen : visit.left ⊆ visit.seen
  closed : ∀ first ∈ visit.left, ∀ second,
    (first, second) ∈ edges → second ∈ visit.left
  ordered : visit.left.Pairwise fun earlier later => (later, earlier) ∉ edges

/--
A visit settles what it leaves, if no node leads back to itself and the nodes
that are entered but not left lead to those that are to be visited.
-/
theorem Visits.settled
    {edges : List Edge}
    {nodes : List DeclId}
    {before after : Visit}
    (visits : Visits edges nodes before after)
    (acyclic : Acyclic edges)
    (settled : Settled edges before)
    (entered : ∀ node ∈ nodes, ∀ waiting ∈ before.seen, waiting ∉ before.left →
      Relation.TransGen (fun first second => (first, second) ∈ edges)
        waiting node) :
    Settled edges after := by
  induction visits with
  | done visit =>
      exact settled
  | passes _ _ othersHold =>
      exact othersHold settled fun node inRest =>
        entered node (List.mem_cons_of_mem _ inRest)
  | @enters node rest before below after unseen inside others insideHolds
      othersHold =>
      -- Whatever is entered but not left leads to the node, so an edge from the
      -- node back to it would close a cycle.
      have enteredNode := entered node List.mem_cons_self
      have belowSettled : Settled edges below := by
        refine insideHolds ⟨?_, settled.closed, settled.ordered⟩ ?_
        · exact fun other isLeft =>
            List.mem_cons_of_mem _ (settled.left_seen isLeft)
        · intro second isSuccessor waiting isWaiting notLeft
          have isEdge := mem_successors_iff.mp isSuccessor
          rcases List.mem_cons.mp isWaiting with rfl | wasWaiting
          · exact .single isEdge
          · exact (enteredNode waiting wasWaiting notLeft).tail isEdge
      obtain ⟨inner, adds⟩ := inside.exists_adds
      have leftInBelow (other : DeclId) (isLeft : other ∈ before.left) :
          other ∈ below.left := by
        rw [adds.left_eq]
        exact List.mem_append_right _ isLeft
      have nodeNotLeft : node ∉ below.left := by
        rw [adds.left_eq]
        intro member
        rcases List.mem_append.mp member with inInner | wasLeft
        · exact adds.unseen node inInner List.mem_cons_self
        · exact unseen (settled.left_seen wasLeft)
      have waitingBelow (waiting : DeclId) (isSeen : waiting ∈ below.seen)
          (notLeft : waiting ∉ below.left) :
          waiting = node ∨ (waiting ∈ before.seen ∧ waiting ∉ before.left) := by
        rcases (adds.seen_iff waiting).mp isSeen with inInner | wasSeen
        · rw [adds.left_eq] at notLeft
          exact (notLeft (List.mem_append_left _ inInner)).elim
        · rcases List.mem_cons.mp wasSeen with isNode | wasSeen
          · exact .inl isNode
          · exact .inr ⟨wasSeen, fun wasLeft => notLeft (leftInBelow _ wasLeft)⟩
      refine othersHold ⟨?_, ?_, ?_⟩ ?_
      · intro other isLeft
        rcases List.mem_cons.mp isLeft with rfl | wasLeft
        · exact inside.seen_subset List.mem_cons_self
        · exact belowSettled.left_seen wasLeft
      · intro first isLeft second isEdge
        refine List.mem_cons_of_mem _ ?_
        rcases List.mem_cons.mp isLeft with rfl | wasLeft
        · by_contra notLeft
          have isSeen := adds.visited second (mem_successors_iff.mpr isEdge)
          rcases waitingBelow second isSeen notLeft with rfl | ⟨wasSeen, notLeft⟩
          · exact acyclic _ (.single isEdge)
          · exact acyclic _ ((enteredNode second wasSeen notLeft).tail isEdge)
        · exact belowSettled.closed first wasLeft second isEdge
      · refine List.pairwise_cons.mpr ⟨?_, belowSettled.ordered⟩
        intro other wasLeft isEdge
        exact nodeNotLeft (belowSettled.closed other wasLeft node isEdge)
      · intro other inRest waiting isWaiting notLeft
        rw [List.mem_cons, not_or] at notLeft
        rcases waitingBelow waiting isWaiting notLeft.2 with isNode | ⟨wasWaiting, wasNotLeft⟩
        · exact (notLeft.1 isNode).elim
        · exact entered other (List.mem_cons_of_mem _ inRest) waiting wasWaiting
            wasNotLeft

variable
    {edges : List Edge}

/-- The order is what a visit of all endpoints leaves. -/
theorem visits_topologicalOrder (edges : List Edge) :
    Visits edges (endpoints edges).reverse {}
      (visitAll edges ((endpoints edges).length + 1)
        (endpoints edges).reverse {}) := by
  have closed : ∀ edge ∈ edges, edge.2 ∈ endpoints edges :=
    fun edge isEdge => mem_endpoints_iff.mpr ⟨edge, isEdge, .inr rfl⟩
  refine visits_visitAll closed _ ?_ ?_
  · intro node member
    exact List.mem_reverse.mp member
  · exact Nat.lt_succ_of_le List.countP_le_length

/-- No node is twice in the order, and every endpoint is in it. -/
theorem nodup_and_mem_topologicalOrder (edges : List Edge) :
    (topologicalOrder edges).Nodup ∧
      ∀ node ∈ endpoints edges, node ∈ topologicalOrder edges := by
  obtain ⟨new, adds⟩ := (visits_topologicalOrder edges).exists_adds
  have order_eq : topologicalOrder edges = new := by
    rw [topologicalOrder, adds.left_eq]
    exact List.append_nil new
  rw [order_eq]
  refine ⟨adds.distinct, ?_⟩
  intro node isEndpoint
  have isSeen := adds.visited node (List.mem_reverse.mpr isEndpoint)
  rcases (adds.seen_iff node).mp isSeen with isNew | wasSeen
  · exact isNew
  · cases wasSeen

/-- Without cycles no edge leads back in the order. -/
theorem pairwise_topologicalOrder
    (acyclic : Acyclic edges) :
    (topologicalOrder edges).Pairwise fun earlier later =>
      (later, earlier) ∉ edges := by
  refine ((visits_topologicalOrder edges).settled acyclic ⟨?_, ?_, ?_⟩ ?_).ordered
  · exact List.nil_subset _
  · intro first isLeft
    cases isLeft
  · exact List.Pairwise.nil
  · intro node _ waiting isWaiting
    cases isWaiting

/-- Edges that all lead to larger numbers have no cycle. -/
theorem acyclic_of_lt
    (upward : ∀ edge ∈ edges, edge.1 < edge.2) :
    Acyclic edges := by
  have larger {first second : DeclId}
      (leads : Relation.TransGen (fun one other => (one, other) ∈ edges)
        first second) :
      first < second := by
    induction leads with
    | single isEdge =>
        exact upward _ isEdge
    | tail _ isEdge inductionHypothesis =>
        exact Nat.lt_trans inductionHypothesis (upward _ isEdge)
  intro node leadsBack
  exact Nat.lt_irrefl node (larger leadsBack)

/-- Without cycles no edge leads from a node to itself. -/
theorem Acyclic.ne
    (acyclic : Acyclic edges)
    {ancestor descendant : DeclId}
    (isEdge : (ancestor, descendant) ∈ edges) :
    ancestor ≠ descendant := by
  rintro rfl
  exact acyclic ancestor (.single isEdge)

/-- Without cycles an ancestor stands before its descendants in the order. -/
theorem idxOf_lt_idxOf
    (acyclic : Acyclic edges)
    {ancestor descendant : DeclId}
    (isEdge : (ancestor, descendant) ∈ edges) :
    (topologicalOrder edges).idxOf ancestor <
      (topologicalOrder edges).idxOf descendant := by
  obtain ⟨-, endpointsIn⟩ := nodup_and_mem_topologicalOrder edges
  have ancestorIn : ancestor ∈ topologicalOrder edges :=
    endpointsIn _ (mem_endpoints_iff.mpr ⟨_, isEdge, .inl rfl⟩)
  have descendantIn : descendant ∈ topologicalOrder edges :=
    endpointsIn _ (mem_endpoints_iff.mpr ⟨_, isEdge, .inr rfl⟩)
  have ancestorInside := List.idxOf_lt_length_iff.mpr ancestorIn
  have descendantInside := List.idxOf_lt_length_iff.mpr descendantIn
  rcases Nat.lt_trichotomy ((topologicalOrder edges).idxOf ancestor)
      ((topologicalOrder edges).idxOf descendant) with
      isBefore | isSame | isAfter
  · exact isBefore
  · exact (acyclic.ne isEdge ((List.idxOf_inj ancestorIn).mp isSame)).elim
  · have backward :=
      List.pairwise_iff_getElem.mp (pairwise_topologicalOrder acyclic)
        _ _ descendantInside ancestorInside isAfter
    rw [List.getElem_idxOf, List.getElem_idxOf] at backward
    exact (backward isEdge).elim

/-! ## The scheduled edges -/

/-- Of edges grouped by distinct descendants those into one are one group. -/
theorem filter_flatMap_filter
    {nodes : List DeclId}
    (distinct : nodes.Nodup)
    (edges : List Edge)
    (node : DeclId) :
    (nodes.flatMap fun one => edges.filter (·.2 == one)).filter (·.2 == node) =
      if node ∈ nodes then edges.filter (·.2 == node) else [] := by
  induction nodes with
  | nil =>
      rfl
  | cons first rest inductionHypothesis =>
      obtain ⟨absent, restDistinct⟩ := List.nodup_cons.mp distinct
      rw [List.flatMap_cons, List.filter_append,
        inductionHypothesis restDistinct, List.filter_filter]
      by_cases same : node = first
      · subst same
        simp [absent]
      · have noneThere : edges.filter
            (fun edge => edge.2 == node && edge.2 == first) = [] := by
          refine List.filter_eq_nil_iff.mpr ?_
          intro edge _ both
          simp only [Bool.and_eq_true, beq_iff_eq] at both
          exact same (both.1.symm.trans both.2)
        simp [noneThere, same]

/-- All edges into a node are scheduled, in their order. -/
theorem filter_schedule
    (edges : List Edge)
    (node : DeclId) :
    (schedule edges).filter (·.2 == node) = edges.filter (·.2 == node) := by
  obtain ⟨distinct, endpointsIn⟩ := nodup_and_mem_topologicalOrder edges
  rw [schedule, filter_flatMap_filter distinct]
  split
  · rfl
  · rename_i absent
    refine (List.filter_eq_nil_iff.mpr ?_).symm
    intro edge isEdge isInto
    refine absent (endpointsIn node (mem_endpoints_iff.mpr ⟨edge, isEdge, .inr ?_⟩))
    exact (beq_iff_eq.mp isInto).symm

/-- Only edges between known classes are scheduled. -/
theorem schedule_subset (edges : List Edge) : schedule edges ⊆ edges := by
  intro edge scheduled
  obtain ⟨node, -, isEdge⟩ := List.mem_flatMap.mp scheduled
  exact List.mem_of_mem_filter isEdge

/-- Without cycles no edge into an ancestor is scheduled after one out of it. -/
theorem pairwise_schedule
    (acyclic : Acyclic edges) :
    (schedule edges).Pairwise fun earlier later => later.2 ≠ earlier.1 := by
  refine List.pairwise_flatMap.mpr ⟨?_, ?_⟩
  · intro node _
    refine List.pairwise_of_forall_mem_list ?_
    intro earlier isEarlier later isLater same
    obtain ⟨isEdge, isInto⟩ := List.mem_filter.mp isEarlier
    obtain ⟨-, isIntoToo⟩ := List.mem_filter.mp isLater
    exact acyclic.ne isEdge
      (same.symm.trans
        ((beq_iff_eq.mp isIntoToo).trans (beq_iff_eq.mp isInto).symm))
  · refine (pairwise_topologicalOrder acyclic).imp ?_
    rintro first second notBack ⟨ancestor, descendant⟩ isEarlier later isLater
      same
    obtain ⟨isEdge, isInto⟩ := List.mem_filter.mp isEarlier
    obtain ⟨-, isIntoToo⟩ := List.mem_filter.mp isLater
    obtain rfl : descendant = first := beq_iff_eq.mp isInto
    obtain rfl : ancestor = second := same.symm.trans (beq_iff_eq.mp isIntoToo)
    exact notBack isEdge

/-- If no edge leads back, all edges into the ancestor of one come before it. -/
theorem filter_earlier_of_pairwise
    (ordered : edges.Pairwise fun earlier later => later.2 ≠ earlier.1)
    {earlier later : List Edge}
    {edge : Edge}
    (different : edge.1 ≠ edge.2)
    (split : edges = earlier ++ edge :: later) :
    earlier.filter (·.2 == edge.1) = edges.filter (·.2 == edge.1) := by
  rw [split] at ordered
  obtain ⟨-, ordered, -⟩ := List.pairwise_append.mp ordered
  obtain ⟨notInto, -⟩ := List.pairwise_cons.mp ordered
  have notLater : (edge :: later).filter (·.2 == edge.1) = [] := by
    refine List.filter_eq_nil_iff.mpr ?_
    intro other member isInto
    rcases List.mem_cons.mp member with rfl | isLater
    · exact different (beq_iff_eq.mp isInto).symm
    · exact notInto other isLater (beq_iff_eq.mp isInto)
  rw [split, List.filter_append, notLater, List.append_nil]

/-- When an edge is followed, all edges into its ancestor have been. -/
theorem filter_earlier
    (acyclic : Acyclic edges)
    {earlier later : List Edge}
    {edge : Edge}
    (split : schedule edges = earlier ++ edge :: later) :
    earlier.filter (·.2 == edge.1) = edges.filter (·.2 == edge.1) := by
  have isEdge : edge ∈ edges := by
    refine schedule_subset edges ?_
    rw [split]
    exact List.mem_append_right _ List.mem_cons_self
  rw [← filter_schedule edges]
  exact filter_earlier_of_pairwise (pairwise_schedule acyclic)
    (acyclic.ne isEdge) split

end ApiTree.Decl.Hierarchy
