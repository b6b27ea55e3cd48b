import ApiTree.Proofs.Hierarchy.Reference

namespace ApiTree.Decl.Hierarchy

/-!
# The same edges in another order

Edges may be recorded in another order as long as those into each class keep
theirs.  Then the schedules have the same edges into each class, in the same
order, and in both all edges into an ancestor come before those out of it.
-/

/-- That two lists have the same edges into each class, in the same order. -/
def SameInto (first second : List Edge) : Prop :=
  ∀ number, second.filter (·.2 == number) = first.filter (·.2 == number)

/-- Different edges of which those into an ancestor come before those out of it. -/
structure Orderly (edges : List Edge) : Prop where
  distinct : edges.Nodup
  different : ∀ edge ∈ edges, edge.1 ≠ edge.2
  ordered : edges.Pairwise fun earlier later => later.2 ≠ earlier.1

variable
    {edges first second earlier later : List Edge}
    {edge : Edge}

/-! ## Lists of edges -/

/-- An edge is as often in a list as among the edges into its descendant. -/
theorem count_filter_into
    (edges : List Edge)
    (edge : Edge) :
    (edges.filter (·.2 == edge.2)).count edge = edges.count edge :=
  List.count_filter (beq_self_eq_true edge.2)

namespace SameInto

theorem mem_iff
    (sameInto : SameInto first second) :
    edge ∈ second ↔ edge ∈ first := by
  have same := congrArg (edge ∈ ·) (sameInto edge.2)
  simpa [List.mem_filter] using same

/-- The edges are the same up to their order. -/
theorem perm
    (sameInto : SameInto first second) :
    first.Perm second := by
  rw [List.perm_iff_count]
  intro edge
  rw [← count_filter_into first, ← count_filter_into second, sameInto edge.2]

theorem filter
    (sameInto : SameInto first second)
    (keep : Edge → Bool) :
    SameInto (first.filter keep) (second.filter keep) := by
  intro number
  rw [List.filter_comm, sameInto number, List.filter_comm]

end SameInto

/-- A list is split where its filtered list is. -/
theorem exists_of_filter_eq_append_cons
    {keep : Edge → Bool}
    {front back : List Edge}
    (kept : edges.filter keep = front ++ edge :: back) :
    ∃ earlier later, edges = earlier ++ edge :: later ∧
      earlier.filter keep = front ∧ later.filter keep = back := by
  obtain ⟨inFront, rest, rfl, frontEq, restEq⟩ :=
    List.filter_eq_append_iff.mp kept
  obtain ⟨between, later, rfl, leftOut, -, laterEq⟩ :=
    List.filter_eq_cons_iff.mp restEq
  refine ⟨inFront ++ between, later, by simp, ?_, laterEq⟩
  rw [List.filter_append, frontEq, List.filter_eq_nil_iff.mpr leftOut,
    List.append_nil]

namespace Orderly

theorem filter
    (orderly : Orderly edges)
    (keep : Edge → Bool) :
    Orderly (edges.filter keep) where
  distinct := orderly.distinct.filter keep
  different := fun edge isEdge =>
    orderly.different edge (List.mem_of_mem_filter isEdge)
  ordered := orderly.ordered.filter keep

/-- An edge does not come again. -/
theorem not_mem_around
    (orderly : Orderly edges)
    (split : edges = earlier ++ edge :: later) :
    edge ∉ earlier ∧ edge ∉ later := by
  have distinct := orderly.distinct
  rw [split] at distinct
  have absent := (List.nodup_cons.mp (List.nodup_middle.mp distinct)).1
  rwa [List.mem_append, not_or] at absent

/-- An edge is at one place. -/
theorem earlier_eq
    (orderly : Orderly edges)
    {otherEarlier otherLater : List Edge}
    (split : edges = earlier ++ edge :: later)
    (otherSplit : edges = otherEarlier ++ edge :: otherLater) :
    earlier = otherEarlier := by
  obtain ⟨notEarlier, notLater⟩ := orderly.not_mem_around split
  exact ((List.append_cons_inj_of_notMem notEarlier notLater).mp
    (split.symm.trans otherSplit)).1

/-- All edges into the ancestor of an edge come before it. -/
theorem filter_earlier
    (orderly : Orderly edges)
    (split : edges = earlier ++ edge :: later) :
    earlier.filter (·.2 == edge.1) = edges.filter (·.2 == edge.1) :=
  filter_earlier_of_pairwise orderly.ordered
    (orderly.different edge (by simp [split])) split

end Orderly

/-! ## Schedules -/

theorem nodup_insertEdge
    (distinct : edges.Nodup)
    (edge : Edge) :
    (insertEdge edges edge).Nodup := by
  unfold insertEdge
  split
  · exact distinct
  · rename_i leftIn
    rw [List.nodup_append]
    refine ⟨distinct, List.nodup_singleton edge, ?_⟩
    rintro one isOne other isOther rfl
    obtain rfl := List.mem_singleton.mp isOther
    exact leftIn (.inr isOne)

/-- No resolved edge is repeated. -/
theorem nodup_resolvedEdges (hierarchy : Hierarchy) :
    hierarchy.resolvedEdges.Nodup := by
  obtain ⟨classes, recorded⟩ := hierarchy
  induction recorded using List.reverseRecOn with
  | nil =>
      exact List.nodup_nil
  | append_singleton earlier last inductionHypothesis =>
      simp only [resolvedEdges, class?] at inductionHypothesis ⊢
      rw [List.foldl_append, List.foldl_cons, List.foldl_nil]
      split
      · exact nodup_insertEdge inductionHypothesis _
      · exact inductionHypothesis

/-- Without cycles the schedule of different edges is orderly. -/
theorem orderly_schedule
    (acyclic : Acyclic edges)
    (distinct : edges.Nodup) :
    Orderly (schedule edges) where
  distinct := by
    rw [List.nodup_iff_count_le_one]
    intro edge
    rw [← count_filter_into, filter_schedule, count_filter_into]
    exact List.nodup_iff_count_le_one.mp distinct edge
  different := fun _ scheduled => acyclic.ne (schedule_subset edges scheduled)
  ordered := pairwise_schedule acyclic

theorem SameInto.schedule
    (sameInto : SameInto first second) :
    SameInto (schedule first) (schedule second) := by
  intro number
  rw [filter_schedule, filter_schedule]
  exact sameInto number

theorem SameInto.acyclic
    (sameInto : SameInto first second)
    (acyclic : Acyclic first) :
    Acyclic second := by
  intro node leadsBack
  exact acyclic node (Relation.TransGen.mono
    (fun _ _ isEdge => sameInto.mem_iff.mp isEdge) node node leadsBack)

/-! ## Hierarchies -/

/--
That two hierarchies know the same classes and record the same edges, in any order
in which those of each class keep theirs.
-/
structure Rearranged (first second : Hierarchy) : Prop where
  classes_eq : second.classes = first.classes
  edges_eq : ∀ number,
    second.edges.filter (·.descendant == number) =
      first.edges.filter (·.descendant == number)

theorem Rearranged.symm
    {first second : Hierarchy}
    (rearranged : Rearranged first second) :
    Rearranged second first :=
  ⟨rearranged.classes_eq.symm, fun number => (rearranged.edges_eq number).symm⟩

/-- Neighbouring edges into different classes may be recorded the other way round. -/
theorem rearranged_swap
    (classes : List (String × DeclId))
    (front back : List Extends)
    {first second : Extends}
    (different : first.descendant ≠ second.descendant) :
    Rearranged ⟨classes, front ++ first :: second :: back⟩
      ⟨classes, front ++ second :: first :: back⟩ := by
  refine ⟨rfl, fun number => ?_⟩
  simp only [List.filter_append, List.filter_cons]
  by_cases intoFirst : first.descendant = number
  · have notSecond : second.descendant ≠ number := fun intoSecond =>
      different (intoFirst.trans intoSecond.symm)
    simp [intoFirst, notSecond]
  · simp [intoFirst]

theorem filter_eq_map_basesOf
    (edges : List Edge)
    (number : DeclId) :
    edges.filter (·.2 == number) =
      (basesOf edges number).map fun base => (base, number) := by
  rw [basesOf, List.map_map]
  symm
  refine (List.map_congr_left ?_).trans (List.map_id _)
  rintro ⟨ancestor, descendant⟩ isInto
  have isNumber := beq_iff_eq.mp (List.mem_filter.mp isInto).2
  exact congrArg (ancestor, ·) isNumber.symm

/-- Rearranged hierarchies have the same resolved edges into each class. -/
theorem Rearranged.sameInto
    {first second : Hierarchy}
    (rearranged : Rearranged first second) :
    SameInto first.resolvedEdges second.resolvedEdges := by
  intro number
  have sameBases : second.knownBases number = first.knownBases number := by
    simp only [knownBases, class?, rearranged.classes_eq,
      rearranged.edges_eq number]
  rw [filter_eq_map_basesOf, filter_eq_map_basesOf, basesOf_resolvedEdges,
    basesOf_resolvedEdges, sameBases]

end ApiTree.Decl.Hierarchy
