import ApiTree.Proofs.Hierarchy.Rearranged

namespace ApiTree.Decl.Hierarchy

/-!
# Searching with a stack

A depth-first search can be carried out one step at a time, with a stack of the nodes
that are entered and of how many successors of each were looked at.  Whatever the
edges, it comes to an end, and what it has left then is the order of the nodes.  Where
the endpoints are ordered as they are first named, the search finds nothing new below
any of them, so that they keep that order.
-/

/-! ## Steps of a search -/

/--
Where a search stands: the nodes at which it is still to start, the nodes that were
entered and are not left, the innermost first, each with the number of its successors
that were looked at, and what was seen and left.
-/
structure Search where
  starts : List DeclId
  stack : List (DeclId × Nat)
  visit : Visit

namespace Search

/-- The next step of a search, unless it is over. -/
def step?
    (edges : List Edge)
    (search : Search) :
    Option Search :=
  match search.stack with
  | [] =>
      match search.starts with
      | [] => none
      | start :: starts =>
          if start ∈ search.visit.seen then
            some { search with starts := starts }
          else
            some
              { starts := starts
                stack := [(start, 0)]
                visit := { search.visit with seen := start :: search.visit.seen } }
  | (node, index) :: below =>
      match (successors edges node)[index]? with
      | some next =>
          if next ∈ search.visit.seen then
            some { search with stack := (node, index + 1) :: below }
          else
            some
              { search with
                stack := (next, 0) :: (node, index + 1) :: below
                visit := { search.visit with seen := next :: search.visit.seen } }
      | none =>
          some
            { search with
              stack := below
              visit := { search.visit with left := node :: search.visit.left } }

/-- That some steps lead from one search to another. -/
def Leads (edges : List Edge) : Search → Search → Prop :=
  Relation.ReflTransGen fun before after => before.step? edges = some after

/-- That a search is carried on until no step is left. -/
def EndsIn
    (edges : List Edge)
    (first last : Search) :
    Prop :=
  Leads edges first last ∧ last.step? edges = none

/-- The search that starts at the last endpoint first. -/
def initial (edges : List Edge) : Search :=
  { starts := (endpoints edges).reverse, stack := [], visit := {} }

/-! ## A visit is what a search does -/

variable
    {edges : List Edge}
    {nodes : List DeclId}
    {before after : Visit}

theorem getElem?_of_drop
    {successors rest : List DeclId}
    {next : DeclId}
    {index : Nat}
    (left : successors.drop index = next :: rest) :
    successors[index]? = some next ∧ successors.drop (index + 1) = rest := by
  rw [← List.head?_drop, ← List.tail_drop, left]
  exact ⟨rfl, rfl⟩

/-- A search that visits the remaining successors of a node leaves the node. -/
theorem leads_of_visits
    (visits : Visits edges nodes before after)
    {node : DeclId}
    {index : Nat}
    (remaining : (successors edges node).drop index = nodes)
    (starts : List DeclId)
    (below : List (DeclId × Nat)) :
    Leads edges ⟨starts, (node, index) :: below, before⟩
      ⟨starts, below, { after with left := node :: after.left }⟩ := by
  induction visits generalizing node index below with
  | done visit =>
      have noMore : (successors edges node)[index]? = none :=
        List.getElem?_eq_none (List.drop_eq_nil_iff.mp remaining)
      exact .single (by simp only [step?, noMore])
  | passes seen others othersHold =>
      obtain ⟨found, remaining⟩ := getElem?_of_drop remaining
      refine .head ?_ (othersHold remaining below)
      simp only [step?, found, seen, ↓reduceIte]
  | enters unseen inside others insideHolds othersHold =>
      obtain ⟨found, remaining⟩ := getElem?_of_drop remaining
      refine .head ?_
        ((insideHolds (List.drop_zero (l := _)) _).trans (othersHold remaining below))
      simp only [step?, found, unseen, ↓reduceIte]

/-- A search that starts at some nodes visits them. -/
theorem leads_of_visits_starts
    (visits : Visits edges nodes before after) :
    Leads edges ⟨nodes, [], before⟩ ⟨[], [], after⟩ := by
  induction visits with
  | done visit => exact .refl
  | passes seen others othersHold =>
      refine .head ?_ othersHold
      simp only [step?, seen, ↓reduceIte]
  | enters unseen inside others insideHolds othersHold =>
      refine .head ?_
        ((leads_of_visits inside (List.drop_zero (l := _)) _ _).trans othersHold)
      simp only [step?, unseen, ↓reduceIte]

/-- The search comes to an end, and has then left the nodes in their order. -/
theorem exists_endsIn (edges : List Edge) :
    ∃ last, EndsIn edges (initial edges) last ∧
      last.visit.left = topologicalOrder edges :=
  ⟨_, ⟨leads_of_visits_starts (visits_topologicalOrder edges), rfl⟩, rfl⟩

end Search

/-! ## Endpoints that are ordered -/

variable
    {edges : List Edge}

theorem nodup_insertLast
    {elements : List DeclId}
    (distinct : elements.Nodup)
    (element : DeclId) :
    (insertLast elements element).Nodup := by
  unfold insertLast
  split
  · exact distinct
  · rename_i absent
    exact List.nodup_append.mpr ⟨distinct, List.nodup_singleton element,
      fun one isOne other isOther same =>
        absent (List.mem_singleton.mp isOther ▸ same ▸ isOne)⟩

theorem nodup_endpoints (edges : List Edge) : (endpoints edges).Nodup :=
  List.foldlRecOn edges _ List.nodup_nil fun _ distinct _ _ =>
    nodup_insertLast (nodup_insertLast distinct _) _

/-- A visit of nodes that were all seen changes nothing. -/
theorem visitAll_of_subset_seen
    (edges : List Edge)
    (depth : Nat)
    {nodes : List DeclId}
    {visit : Visit}
    (seen : nodes ⊆ visit.seen) :
    visitAll edges depth nodes visit = visit := by
  cases depth with
  | zero => rfl
  | succ depth =>
      induction nodes with
      | nil => rfl
      | cons node rest inductionHypothesis =>
          obtain ⟨nodeSeen, restSeen⟩ := List.cons_subset.mp seen
          have others := inductionHypothesis restSeen
          simp only [visitAll, List.foldl_cons, nodeSeen, ↓reduceIte] at others ⊢
          exact others

/-- Ordered nodes that lead only to each other are left as they stand. -/
theorem visitAll_reverse_of_pairwise
    (edges : List Edge)
    (depth : Nat)
    {nodes : List DeclId}
    (distinct : nodes.Nodup)
    (ordered : nodes.Pairwise fun earlier later => (later, earlier) ∉ edges)
    (closed : ∀ first ∈ nodes, ∀ second, (first, second) ∈ edges → second ∈ nodes) :
    visitAll edges (depth + 1) nodes.reverse {} = ⟨nodes, nodes⟩ := by
  -- The last node is visited first, so that whatever a node leads to has been left
  -- when the node is entered.
  induction nodes with
  | nil => rfl
  | cons node rest inductionHypothesis =>
      obtain ⟨notInRest, restDistinct⟩ := List.nodup_cons.mp distinct
      obtain ⟨noneBack, restOrdered⟩ := List.pairwise_cons.mp ordered
      have restClosed : ∀ first ∈ rest, ∀ second,
          (first, second) ∈ edges → second ∈ rest := by
        intro first isFirst second isEdge
        rcases List.mem_cons.mp
          (closed first (List.mem_cons_of_mem _ isFirst) second isEdge) with
          rfl | inRest
        · exact (noneBack first isFirst isEdge).elim
        · exact inRest
      have restLeft := inductionHypothesis restDistinct restOrdered restClosed
      have successorsSeen : successors edges node ⊆ node :: rest :=
        fun second isSuccessor =>
          closed node List.mem_cons_self second (mem_successors_iff.mp isSuccessor)
      simp only [visitAll] at restLeft
      simp only [visitAll, List.reverse_cons, List.foldl_append, List.foldl_cons,
        List.foldl_nil, restLeft, notInRest, ↓reduceIte]
      rw [visitAll_of_subset_seen edges depth successorsSeen]

/-- Endpoints that are ordered as they are first named keep that order. -/
theorem topologicalOrder_eq_endpoints
    (ordered : (endpoints edges).Pairwise fun earlier later =>
      (later, earlier) ∉ edges) :
    topologicalOrder edges = endpoints edges := by
  have closed : ∀ first ∈ endpoints edges, ∀ second,
      (first, second) ∈ edges → second ∈ endpoints edges :=
    fun first _ second isEdge => mem_endpoints_iff.mpr ⟨_, isEdge, .inr rfl⟩
  rw [topologicalOrder,
    visitAll_reverse_of_pairwise edges _ (nodup_endpoints edges) ordered closed]

/-! ## What is in the order -/

/-- What is left was left before, or stands where nodes and edges lead. -/
theorem Visits.left_subset
    {nodes region : List DeclId}
    {before after : Visit}
    (visits : Visits edges nodes before after)
    (closed : ∀ edge ∈ edges, edge.2 ∈ region)
    (included : nodes ⊆ region)
    (leftBefore : before.left ⊆ region) :
    after.left ⊆ region := by
  induction visits with
  | done visit => exact leftBefore
  | passes _ _ othersHold =>
      exact othersHold (List.cons_subset.mp included).2 leftBefore
  | enters _ _ _ insideHolds othersHold =>
      obtain ⟨nodeInside, restIncluded⟩ := List.cons_subset.mp included
      have leftBelow := insideHolds
        (fun _ isSuccessor => closed _ (mem_successors_iff.mp isSuccessor)) leftBefore
      exact othersHold restIncluded (List.cons_subset.mpr ⟨nodeInside, leftBelow⟩)

/-- The order has the endpoints and nothing else. -/
theorem mem_topologicalOrder_iff
    {node : DeclId} :
    node ∈ topologicalOrder edges ↔ node ∈ endpoints edges := by
  have closed : ∀ edge ∈ edges, edge.2 ∈ endpoints edges :=
    fun edge isEdge => mem_endpoints_iff.mpr ⟨edge, isEdge, .inr rfl⟩
  refine ⟨fun inOrder => ?_, (nodup_and_mem_topologicalOrder edges).2 node⟩
  exact (visits_topologicalOrder edges).left_subset closed
    (fun _ => List.mem_reverse.mp) (List.nil_subset _) inOrder

/-- All that a node leads to stands behind it in the order. -/
theorem idxOf_lt_idxOf_of_transGen
    (acyclic : Acyclic edges)
    {ancestor descendant : DeclId}
    (leads : Relation.TransGen (fun first second => (first, second) ∈ edges)
      ancestor descendant) :
    (topologicalOrder edges).idxOf ancestor <
      (topologicalOrder edges).idxOf descendant := by
  induction leads with
  | single isEdge => exact idxOf_lt_idxOf acyclic isEdge
  | tail _ isEdge inductionHypothesis =>
      exact Nat.lt_trans inductionHypothesis (idxOf_lt_idxOf acyclic isEdge)

/-- Where no edge leads back, a later node has no edge to an earlier one. -/
theorem pairwise_of_idxOf_le
    {nodes : List DeclId}
    (distinct : nodes.Nodup)
    (forward : ∀ edge ∈ edges, nodes.idxOf edge.1 ≤ nodes.idxOf edge.2) :
    nodes.Pairwise fun earlier later => (later, earlier) ∉ edges := by
  rw [List.pairwise_iff_getElem]
  intro first second firstInside secondInside isBefore isEdge
  have notBack := forward _ isEdge
  rw [distinct.idxOf_getElem, distinct.idxOf_getElem] at notBack
  exact Nat.not_le_of_lt isBefore notBack

/-! ## Edges that are followed -/

/-- The resolved edges lead from known classes to others that extend them. -/
theorem mem_resolvedEdges_iff
    {hierarchy : Hierarchy}
    {ancestor descendant : DeclId} :
    (ancestor, descendant) ∈ hierarchy.resolvedEdges ↔
      ancestor ≠ descendant ∧ ∃ recorded ∈ hierarchy.edges,
        recorded.descendant = descendant ∧
          hierarchy.class? recorded.ancestor = some ancestor := by
  rw [← mem_basesOf_iff, basesOf_resolvedEdges, knownBases, List.mem_eraseDups,
    List.mem_filter, and_comm, bne_iff_ne]
  simp only [List.mem_filterMap, List.mem_filter, beq_iff_eq, and_assoc]

/-- Every edge is scheduled as often as it is there. -/
theorem perm_schedule (edges : List Edge) : (schedule edges).Perm edges :=
  SameInto.perm fun number => (filter_schedule edges number).symm

/--
A depth-first search with a stack comes to an end whatever the edges, and leaves the
nodes of the edges in their order, each once.  Without cycles all ancestors of a node
stand before it.  If no edge leads back where the nodes are listed as they are first
named, they keep that order.  So along each edge between a known class and another one
that extends it, repeated or not, members flow once.
-/
theorem topologicalOrder_lists_each_node_once (edges : List Edge) :
    (∃ last, Search.EndsIn edges (.initial edges) last ∧
        last.visit.left = topologicalOrder edges) ∧
      (topologicalOrder edges).Nodup ∧
      (∀ node, node ∈ topologicalOrder edges ↔
        ∃ edge ∈ edges, node = edge.1 ∨ node = edge.2) ∧
      (Acyclic edges → ∀ ancestor descendant,
        Relation.TransGen (fun first second => (first, second) ∈ edges)
          ancestor descendant →
        (topologicalOrder edges).idxOf ancestor <
          (topologicalOrder edges).idxOf descendant) ∧
      ((∀ edge ∈ edges,
          (endpoints edges).idxOf edge.1 ≤ (endpoints edges).idxOf edge.2) →
        topologicalOrder edges = endpoints edges) ∧
      ∀ (hierarchy : Hierarchy) (root : Declaration) (supply : IdSupply),
        ∃ followed : List Edge,
          hierarchy.resolve root supply =
              followed.foldl (Inheriting.propagate root.childPaths)
                { root := root, supply := supply } ∧
            followed.Nodup ∧
            ∀ ancestor descendant, (ancestor, descendant) ∈ followed ↔
              ancestor ≠ descendant ∧ ∃ recorded ∈ hierarchy.edges,
                recorded.descendant = descendant ∧
                  hierarchy.class? recorded.ancestor = some ancestor := by
  refine ⟨Search.exists_endsIn edges, (nodup_and_mem_topologicalOrder edges).1, ?_, ?_,
    ?_, ?_⟩
  · intro node
    rw [mem_topologicalOrder_iff, mem_endpoints_iff]
  · intro acyclic ancestor descendant leads
    exact idxOf_lt_idxOf_of_transGen acyclic leads
  · intro forward
    exact topologicalOrder_eq_endpoints
      (pairwise_of_idxOf_le (nodup_endpoints edges) forward)
  · intro hierarchy root supply
    have scheduled := perm_schedule hierarchy.resolvedEdges
    refine ⟨schedule hierarchy.resolvedEdges, rfl, ?_, ?_⟩
    · exact scheduled.nodup_iff.mpr (nodup_resolvedEdges hierarchy)
    · intro ancestor descendant
      rw [scheduled.mem_iff, mem_resolvedEdges_iff]

/-- Two classes between a first one and a last one keep the order they are named in. -/
theorem topologicalOrder_lists_each_node_once_of_diamond :
    let edges : List Edge := [(1, 2), (1, 3), (2, 4), (3, 4), (1, 2)]
    Acyclic edges ∧
      (∀ edge ∈ edges,
        (endpoints edges).idxOf edge.1 ≤ (endpoints edges).idxOf edge.2) ∧
      topologicalOrder edges = [1, 2, 3, 4] ∧
      (topologicalOrder edges).idxOf 1 < (topologicalOrder edges).idxOf 4 := by
  intro edges
  have acyclic : Acyclic edges := acyclic_of_lt (by decide)
  have forward : ∀ edge ∈ edges,
      (endpoints edges).idxOf edge.1 ≤ (endpoints edges).idxOf edge.2 := by decide
  obtain ⟨-, -, -, behind, kept, -⟩ := topologicalOrder_lists_each_node_once edges
  refine ⟨acyclic, forward, (kept forward).trans (by decide), ?_⟩
  refine behind acyclic 1 4 (.tail (.single (b := 2) ?_) ?_)
  · simp [edges]
  · simp [edges]

/-- On a cycle the last node that was named comes first. -/
example : topologicalOrder [(1, 2), (2, 3), (3, 1)] = [3, 1, 2] := by decide

end ApiTree.Decl.Hierarchy
