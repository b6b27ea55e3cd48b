import ApiTree.Proofs.Hierarchy.Injecting
import ApiTree.Proofs.Hierarchy.Order
import Mathlib.Data.List.Basic
import Mathlib.Data.List.Induction

namespace ApiTree.Decl.Hierarchy

/-!
# What a class should inherit

The members of a class are its own, into which the members of each base are
entered in turn, those of the base being found in the same way.  Nothing is
copied here and no numbers are given; members only take the place of others, or
are added, under the names they have.
-/

/-- Enters one member of an ancestor into a list of members. -/
def enter
    (ancestorName : String)
    (members : List Declaration)
    (member : Declaration) :
    List Declaration :=
  let origin := Injecting.originOf ancestorName member
  match Injecting.memberPosition? member.name members with
  | none => members ++ [Injecting.stamp origin member]
  | some position =>
      match members[position]? with
      | some own =>
          if own.info.hasSummary then
            members
          else
            members.set position
              (Injecting.stamp origin (Injecting.renamedTo own member))
      | none => members

/-- The class of a number among the members of a root. -/
def class?At
    (root : Declaration)
    (number : DeclId) :
    Option Declaration :=
  root.children.find? (·.id == number)

/-- The members that a class has of its own. -/
def ownMembers
    (root : Declaration)
    (number : DeclId) :
    List Declaration :=
  match class?At root number with
  | some declared => declared.children
  | none => []

/-- The name of a class. -/
def className
    (root : Declaration)
    (number : DeclId) :
    String :=
  match class?At root number with
  | some declared => declared.name
  | none => ""

/-- The bases of a class, in the order of the edges. -/
def basesOf
    (edges : List Edge)
    (number : DeclId) :
    List DeclId :=
  (edges.filter (·.2 == number)).map (·.1)

/--
The known classes that a class extends, other than itself, each once and in the
order in which they were recorded.
-/
def knownBases
    (hierarchy : Hierarchy)
    (number : DeclId) :
    List DeclId :=
  let recorded := hierarchy.edges.filter (·.descendant == number)
  let known := recorded.filterMap fun one => hierarchy.class? one.ancestor
  (known.filter (· != number)).eraseDups

/-- Enters the members of one base into a list of members. -/
def enterBase
    (root : Declaration)
    (membersOf : DeclId → List Declaration)
    (members : List Declaration)
    (base : DeclId) :
    List Declaration :=
  (membersOf base).foldl (enter (className root base)) members

/-- The members of a class as far as a bounded way up leads. -/
def membersWithin
    (root : Declaration)
    (edges : List Edge) :
    Nat → DeclId → List Declaration
  | 0, _ => []
  | height + 1, number =>
      (basesOf edges number).foldl
        (enterBase root (membersWithin root edges height))
        (ownMembers root number)

/-- The members that a class should have. -/
def referenceMembers
    (root : Declaration)
    (edges : List Edge)
    (number : DeclId) :
    List Declaration :=
  membersWithin root edges ((topologicalOrder edges).length + 1) number

/-- A base of a class is at the other end of an edge. -/
theorem mem_basesOf_iff
    {edges : List Edge}
    {base number : DeclId} :
    base ∈ basesOf edges number ↔ (base, number) ∈ edges := by
  simp [basesOf]

/-- An edge that is inserted is a base of its descendant unless it was one. -/
theorem basesOf_insertEdge
    (edges : List Edge)
    (base descendant number : DeclId) :
    basesOf (insertEdge edges (base, descendant)) number =
      if descendant = number ∧ base ≠ number ∧ base ∉ basesOf edges number then
        basesOf edges number ++ [base]
      else
        basesOf edges number := by
  by_cases into : descendant = number
  · subst into
    by_cases leftOut : base = descendant ∨ (base, descendant) ∈ edges
    · have kept : ¬ (base ≠ descendant ∧ base ∉ basesOf edges descendant) := by
        rw [mem_basesOf_iff]
        tauto
      simp only [insertEdge, leftOut, kept, ↓reduceIte, and_false]
    · obtain ⟨other, absent⟩ := not_or.mp leftOut
      simp only [insertEdge, mem_basesOf_iff, other, absent, ↓reduceIte, ne_eq,
        not_false_eq_true, and_self]
      simp [basesOf]
  · simp only [into, false_and, ↓reduceIte]
    unfold insertEdge
    split
    · rfl
    · simp [basesOf, into]

/-- An element behind others is a repetition or is kept behind them. -/
theorem eraseDups_concat
    (numbers : List DeclId)
    (last : DeclId) :
    (numbers ++ [last]).eraseDups =
      if last ∈ numbers then numbers.eraseDups else numbers.eraseDups ++ [last] := by
  rw [List.eraseDups_append]
  by_cases repeated : last ∈ numbers
  · simp [List.removeAll, repeated]
  · simp [List.removeAll, repeated, List.eraseDups_cons]

/-- The bases of a class in the resolved edges are those that are known. -/
theorem basesOf_resolvedEdges
    (hierarchy : Hierarchy)
    (number : DeclId) :
    basesOf hierarchy.resolvedEdges number = hierarchy.knownBases number := by
  obtain ⟨classes, recorded⟩ := hierarchy
  induction recorded using List.reverseRecOn with
  | nil =>
      rfl
  | append_singleton earlier last inductionHypothesis =>
      obtain ⟨ancestor, descendant⟩ := last
      simp only [resolvedEdges, knownBases, class?] at inductionHypothesis ⊢
      rw [List.foldl_append, List.foldl_cons, List.foldl_nil,
        List.filter_append, List.filterMap_append, List.filter_append]
      by_cases into : descendant = number
      · subst into
        cases looked : classes.lookup ancestor with
        | none =>
            simpa [looked] using inductionHypothesis
        | some base =>
            generalize (earlier.filter (·.descendant == descendant)).filterMap
              (fun one => classes.lookup one.ancestor) = known
              at inductionHypothesis ⊢
            by_cases itself : base = descendant
            · simpa [looked, basesOf_insertEdge, itself] using inductionHypothesis
            · by_cases repeated : base ∈ known
              · simp [basesOf_insertEdge, inductionHypothesis, looked, itself,
                  repeated, eraseDups_concat]
              · simp [basesOf_insertEdge, inductionHypothesis, looked, itself,
                  repeated, eraseDups_concat]
      · cases looked : classes.lookup ancestor with
        | none =>
            simpa [into] using inductionHypothesis
        | some base =>
            simpa [into, basesOf_insertEdge] using inductionHypothesis

/-- Two ways up that lead far enough lead to the same members. -/
theorem membersWithin_eq_of_lt
    {edges : List Edge}
    (acyclic : Acyclic edges)
    (root : Declaration)
    {first second : Nat}
    {number : DeclId}
    (firstEnough : (topologicalOrder edges).idxOf number < first)
    (secondEnough : (topologicalOrder edges).idxOf number < second) :
    membersWithin root edges first number =
      membersWithin root edges second number := by
  -- A base stands before the class in the order, so one step up needs one less.
  induction first generalizing second number with
  | zero =>
      exact (Nat.not_lt_zero _ firstEnough).elim
  | succ first inductionHypothesis =>
      cases second with
      | zero =>
          exact (Nat.not_lt_zero _ secondEnough).elim
      | succ second =>
          refine List.foldl_ext _ _ _ ?_
          intro members base isBase
          have below := idxOf_lt_idxOf acyclic (mem_basesOf_iff.mp isBase)
          have sameBase :
              membersWithin root edges first base =
                membersWithin root edges second base :=
            inductionHypothesis (Nat.lt_of_lt_of_le below
                (Nat.le_of_lt_succ firstEnough))
              (Nat.lt_of_lt_of_le below (Nat.le_of_lt_succ secondEnough))
          rw [enterBase, enterBase, sameBase]

/--
The recursion: a class has its own members, into which the members that each of
its bases should have are entered in turn.
-/
theorem referenceMembers_eq
    {edges : List Edge}
    (acyclic : Acyclic edges)
    (root : Declaration)
    (number : DeclId) :
    referenceMembers root edges number =
      (basesOf edges number).foldl
        (enterBase root (referenceMembers root edges))
        (ownMembers root number) := by
  rw [referenceMembers, membersWithin]
  refine List.foldl_ext _ _ _ ?_
  intro members base isBase
  have below := idxOf_lt_idxOf acyclic (mem_basesOf_iff.mp isBase)
  have inside : (topologicalOrder edges).idxOf base <
      (topologicalOrder edges).length :=
    Nat.lt_of_lt_of_le below List.idxOf_le_length
  have sameBase :
      membersWithin root edges (topologicalOrder edges).length base =
        referenceMembers root edges base :=
    membersWithin_eq_of_lt acyclic root inside (Nat.lt_succ_of_lt inside)
  rw [enterBase, enterBase, sameBase]

end ApiTree.Decl.Hierarchy
