import ApiTree.Proofs.Hierarchy.Grounded
import ApiTree.Proofs.Hierarchy.Rearranged

namespace ApiTree.Decl

/-!
# Order of declaration

Edges that are recorded in another order are followed in another order.  If no
class stands inside another, a class still receives the same members: when an edge
is followed, in either run, its ancestor is complete and its descendant has
received along the same edges before.  So one run is followed while names from
its numbers to those of the other are extended edge by edge.
-/

namespace Hierarchy

open Inheriting

/-! ## Names -/

/-- Names that go on in step where two supplies stand. -/
def extendNames
    (names : DeclId → DeclId)
    (first second : IdSupply)
    (number : DeclId) :
    DeclId :=
  if number < first.next then
    names number
  else
    second.next + (number - first.next)

theorem extendNames_of_lt
    {names : DeclId → DeclId}
    {first second : IdSupply}
    {number : DeclId}
    (below : number < first.next) :
    extendNames names first second number = names number :=
  if_pos below

theorem inStep_extendNames
    (names : DeclId → DeclId)
    (first second : IdSupply) :
    InStep (extendNames names first second) first second := by
  intro offset
  have notBelow : ¬ first.next + offset < first.next :=
    Nat.not_lt.mpr (Nat.le_add_right _ _)
  rw [extendNames, if_neg notBelow, Nat.add_sub_cancel_left]

/-- Extended names separate if what is new is not a name yet. -/
theorem separates_extendNames
    {names : DeclId → DeclId}
    {first second : IdSupply}
    {bound : Nat}
    (separates : Separates first.next names)
    (unused : ∀ number, number < first.next →
      ∀ other, first.next ≤ other → other < bound →
        names number ≠ extendNames names first second other) :
    Separates bound (extendNames names first second) := by
  intro number below other otherBelow same
  by_cases isOld : number < first.next
  · by_cases otherOld : other < first.next
    · rw [extendNames_of_lt isOld, extendNames_of_lt otherOld] at same
      exact separates isOld otherOld same
    · rw [extendNames_of_lt isOld] at same
      exact (unused number isOld other (Nat.not_lt.mp otherOld) otherBelow
        same).elim
  · by_cases otherOld : other < first.next
    · rw [extendNames_of_lt otherOld] at same
      exact (unused other otherOld number (Nat.not_lt.mp isOld) below
        same.symm).elim
    · rw [extendNames, extendNames, if_neg isOld, if_neg otherOld] at same
      have le := Nat.not_lt.mp isOld
      have otherLe := Nat.not_lt.mp otherOld
      have sameOffset := Nat.add_left_cancel same
      rw [← Nat.sub_add_cancel le, sameOffset, Nat.sub_add_cancel otherLe]

variable
    {root : Declaration}
    {supply : IdSupply}
    {known first second earlier later : List Edge}
    {edge : Edge}
    {names : DeclId → DeclId}

/-- That a number is given along an edge. -/
def GivenAlong
    (root : Declaration)
    (supply : IdSupply)
    (edges : List Edge)
    (edge : Edge)
    (number : DeclId) :
    Prop :=
  ∃ before after, edges = before ++ edge :: after ∧
    (flowAlong root supply before).supply.next ≤ number ∧
    number < (flowAlong root supply (before ++ [edge])).supply.next

/-- A number is given along one edge only. -/
theorem GivenAlong.unique
    {edges : List Edge}
    {other : Edge}
    {number : DeclId}
    (given : GivenAlong root supply edges edge number)
    (givenToo : GivenAlong root supply edges other number) :
    edge = other := by
  obtain ⟨before, after, split, le, lt⟩ := given
  obtain ⟨otherBefore, otherAfter, otherSplit, otherLe, otherLt⟩ := givenToo
  rcases List.append_eq_append_iff.mp (split.symm.trans otherSplit) with
      ⟨between, shape, rest⟩ | ⟨between, shape, rest⟩
  · cases between with
    | nil =>
        exact (List.cons.inj rest).1
    | cons first between =>
        obtain ⟨rfl, -⟩ := List.cons.inj rest
        have goesOn := next_le_flowAlong_append root supply (before ++ [edge])
          between
        rw [List.append_assoc, List.singleton_append, ← shape] at goesOn
        exact (Nat.not_lt.mpr (Nat.le_trans goesOn otherLe) lt).elim
  · cases between with
    | nil =>
        exact (List.cons.inj rest).1.symm
    | cons first between =>
        obtain ⟨rfl, -⟩ := List.cons.inj rest
        have goesOn := next_le_flowAlong_append root supply
          (otherBefore ++ [other]) between
        rw [List.append_assoc, List.singleton_append, ← shape] at goesOn
        exact (Nat.not_lt.mpr (Nat.le_trans goesOn le) otherLt).elim

/-! ## Twins with other links back -/

/-- A tree whose members are renamed but for nothing is a twin of itself. -/
theorem twin_refl
    {declaration : Declaration}
    (fixed : ∀ member ∈ declaration.children, ∀ number ∈ member.mentions,
      names number = number) :
    Twin names declaration declaration := by
  refine ⟨⟨declaration.info.extendedBy, rfl⟩, ?_, rfl, rfl⟩
  symm
  refine (List.map_congr_left fun member isMember => ?_).trans (List.map_id _)
  rw [Declaration.rename_congr (fixed member isMember), Declaration.rename_id]
  rfl

theorem SameButBackLinks.twin_left
    {current linked other : Declaration}
    (relinked : SameButBackLinks current linked)
    (twin : Twin names current other) :
    Twin names linked other := by
  obtain ⟨extendedBy, rfl⟩ := relinked
  obtain ⟨⟨others, infoEq⟩, children_eq, signatures_eq, parameters_eq⟩ := twin
  cases current
  exact ⟨⟨others, infoEq⟩, children_eq, signatures_eq, parameters_eq⟩

theorem SameButBackLinks.twin_right
    {current other linked : Declaration}
    (relinked : SameButBackLinks other linked)
    (twin : Twin names current other) :
    Twin names current linked := by
  obtain ⟨extendedBy, rfl⟩ := relinked
  obtain ⟨⟨others, infoEq⟩, children_eq, signatures_eq, parameters_eq⟩ := twin
  cases other
  refine ⟨⟨extendedBy, ?_⟩, children_eq, signatures_eq, parameters_eq⟩
  rw [Declaration.info_updateInfo, infoEq]

/-! ## Corresponding runs -/

/-- Two orders of the same edges between classes that stand apart. -/
structure Reordered
    (root : Declaration)
    (known first second : List Edge) :
    Prop where
  apart : Apart root known
  included : first ⊆ known
  sameInto : SameInto first second
  firstOrderly : Orderly first
  secondOrderly : Orderly second

theorem Reordered.second_included
    (reordered : Reordered root known first second) :
    second ⊆ known := fun _ isEdge =>
  reordered.included (reordered.sameInto.mem_iff.mp isEdge)

/--
What one run has made so far corresponds to what another one makes: under some
names, each class is a twin of what it is in the other run whenever it has
received along the same edges there.
-/
structure Corresponds
    (root : Declaration)
    (supply : IdSupply)
    (known second earlier : List Edge)
    (names : DeclId → DeclId) :
    Prop where
  running : (flowAlong root supply earlier).failure = none
  grounded : GroundedEnds root known supply.next (flowAlong root supply earlier)
  fixes : Fixes supply.next names
  separates : Separates (flowAlong root supply earlier).supply.next names
  given : ∀ number, supply.next ≤ number →
    number < (flowAlong root supply earlier).supply.next →
      ∃ edge ∈ earlier, GivenAlong root supply second edge (names number)
  twins : ∀ before after, second = before ++ after → ∀ number,
    before.filter (·.2 == number) = earlier.filter (·.2 == number) →
      ∀ path, root.childPaths.lookup number = some path →
        EndsAt root known path → ∀ current other,
          (flowAlong root supply earlier).root.descendant? path = some current →
            (flowAlong root supply before).root.descendant? path = some other →
              Twin names current other

/-- Before any edge is followed classes are their own twins. -/
theorem corresponds_nil
    (reordered : Reordered root known first second)
    (closed : Closed supply root)
    (runs : (flowAlong root supply second).failure = none) :
    Corresponds root supply known second [] fun number => number := by
  refine
    { running := rfl
      grounded := closed.groundedEnds known
      fixes := fun _ _ => rfl
      separates := fun _ _ _ _ same => same
      given := fun number le lt => (Nat.not_lt.mpr le lt).elim
      twins := ?_ }
  intro before after split number noneInto path looked ends current other leads
    otherLeads
  have notInto (edge : Edge) (isBefore : edge ∈ before) : edge.2 ≠ number := by
    intro isInto
    have listed : edge ∈ before.filter (·.2 == number) :=
      List.mem_filter.mpr ⟨isBefore, beq_iff_eq.mpr isInto⟩
    rw [noneInto] at listed
    cases listed
  have isFront : before <+: second := ⟨after, split.symm⟩
  have included : [] ++ before ⊆ known :=
    List.Subset.trans isFront.subset reordered.second_included
  have running : (flowAlong root supply ([] ++ before)).failure = none :=
    failure_flowAlong_of_prefix isFront runs
  obtain ⟨linked, linkedLeads, relinked⟩ :=
    reordered.apart.relinked_flowAlong_append included running looked ends
      notInto leads
  obtain rfl : other = linked :=
    Option.some.inj (otherLeads.symm.trans linkedLeads)
  exact relinked.twin_right (twin_refl fun _ _ _ _ => rfl)

/-- An edge has a counterpart in the other run, with the same edges into both ends. -/
theorem Reordered.exists_counterpart
    (reordered : Reordered root known first second)
    (split : first = earlier ++ edge :: later) :
    ∃ before after, second = before ++ edge :: after ∧
      before.filter (·.2 == edge.1) = earlier.filter (·.2 == edge.1) ∧
      before.filter (·.2 == edge.2) = earlier.filter (·.2 == edge.2) := by
  have into : second.filter (·.2 == edge.2) =
      earlier.filter (·.2 == edge.2) ++ edge :: later.filter (·.2 == edge.2) := by
    rw [reordered.sameInto edge.2, split, List.filter_append]
    simp only [List.filter_cons, beq_self_eq_true, ↓reduceIte]
  obtain ⟨before, after, otherSplit, sameDescendant, -⟩ :=
    exists_of_filter_eq_append_cons into
  refine ⟨before, after, otherSplit, ?_, sameDescendant⟩
  rw [reordered.secondOrderly.filter_earlier otherSplit,
    reordered.firstOrderly.filter_earlier split]
  exact reordered.sameInto edge.1

section

variable
    {before after : List Edge}
    {ancestorPath descendantPath : Path}
    {ancestor descendant otherAncestor otherDescendant : Declaration}

/-- Names that go on where an edge is followed in the two runs. -/
def namesAlong
    (root : Declaration)
    (supply : IdSupply)
    (earlier before : List Edge)
    (names : DeclId → DeclId) :
    DeclId → DeclId :=
  extendNames names (flowAlong root supply earlier).supply
    (flowAlong root supply before).supply

/-- Extending names along an edge leaves the numbers of the start alone. -/
theorem Corresponds.fixes_namesAlong
    (corresponds : Corresponds root supply known second earlier names)
    (before : List Edge) :
    Fixes supply.next (namesAlong root supply earlier before names) := by
  intro number below
  have nextLe := (covers_flowAlong root supply earlier).le
  rw [namesAlong, extendNames_of_lt (Nat.lt_of_lt_of_le below nextLe)]
  exact corresponds.fixes number below

/-- Where an edge is followed its ends are twins, and so is what they receive. -/
theorem Corresponds.mirrors
    (corresponds : Corresponds root supply known second earlier names)
    (numbered : NumberedFrom supply root)
    (isKnown : edge ∈ known)
    (otherSplit : second = before ++ edge :: after)
    (sameAncestor :
      before.filter (·.2 == edge.1) = earlier.filter (·.2 == edge.1))
    (sameDescendant :
      before.filter (·.2 == edge.2) = earlier.filter (·.2 == edge.2))
    (passes : Passes root supply earlier edge ancestorPath descendantPath
      ancestor descendant)
    (otherPasses : Passes root supply before edge ancestorPath descendantPath
      otherAncestor otherDescendant) :
    Injecting.Mirrors (namesAlong root supply earlier before names)
      (received (flowAlong root supply earlier) edge ancestor descendant)
      (received (flowAlong root supply before) edge otherAncestor
        otherDescendant) := by
  obtain ⟨joins, ancestorFound, descendantFound⟩ := passes
  have ancestorEnds := joins.ancestor_ends isKnown
  have descendantEnds := joins.descendant_ends isKnown
  have extended (number : DeclId)
      (below : number < (flowAlong root supply earlier).supply.next) :
      names number = namesAlong root supply earlier before names number :=
    (extendNames_of_lt below).symm
  have ancestorGrounded :=
    corresponds.grounded.grounded ancestorEnds ancestorFound
  have descendantGrounded :=
    corresponds.grounded.grounded descendantEnds descendantFound
  have ancestors := corresponds.twins before (edge :: after) otherSplit edge.1
    sameAncestor ancestorPath joins.ancestor_path ancestorEnds ancestor
    otherAncestor ancestorFound otherPasses.ancestor_found
  have descendants := corresponds.twins before (edge :: after) otherSplit edge.2
    sameDescendant descendantPath joins.descendant_path descendantEnds descendant
    otherDescendant descendantFound otherPasses.descendant_found
  have copyable := copyable_of_grounded (numberedFrom_flowAlong numbered earlier)
    ancestorFound ancestorGrounded
  have fixes := corresponds.fixes_namesAlong before
  have separates : Separates (flowAlong root supply earlier).supply.next
      (namesAlong root supply earlier before names) := by
    intro number below other otherBelow same
    rw [← extended number below, ← extended other otherBelow] at same
    exact corresponds.separates below otherBelow same
  exact Twin.received
    (descendants.congr fun member isMember number isMentioned =>
      extended number (descendantGrounded.known member isMember number isMentioned))
    (ancestors.congr fun member isMember number isMentioned =>
      extended number (ancestorGrounded.known member isMember number isMentioned))
    (inStep_extendNames _ _ _) fixes separates copyable edge

/-- What is given along an edge in one run is named by what is given in the other. -/
theorem namesAlong_between
    (inStep : InStep (namesAlong root supply earlier before names)
      (flowAlong root supply (earlier ++ [edge])).supply
      (flowAlong root supply (before ++ [edge])).supply)
    {number : DeclId}
    (le : (flowAlong root supply earlier).supply.next ≤ number)
    (lt : number < (flowAlong root supply (earlier ++ [edge])).supply.next) :
    (flowAlong root supply before).supply.next ≤
        namesAlong root supply earlier before names number ∧
      namesAlong root supply earlier before names number <
        (flowAlong root supply (before ++ [edge])).supply.next := by
  have named {one : DeclId}
      (oneLe : (flowAlong root supply earlier).supply.next ≤ one) :
      namesAlong root supply earlier before names one =
        (flowAlong root supply before).supply.next +
          (one - (flowAlong root supply earlier).supply.next) :=
    if_neg (Nat.not_lt.mpr oneLe)
  have nextLe := Nat.le_of_lt (Nat.lt_of_le_of_lt le lt)
  have last := inStep 0
  rw [Nat.add_zero, Nat.add_zero, named nextLe] at last
  rw [named le, ← last]
  exact ⟨Nat.le_add_right _ _,
    Nat.add_lt_add_left (Nat.sub_lt_sub_right le lt) _⟩

/-- Names that are extended along an edge separate what was given so far. -/
theorem Corresponds.separates_namesAlong
    (corresponds : Corresponds root supply known second earlier names)
    (notEarlier : edge ∉ earlier)
    (otherSplit : second = before ++ edge :: after)
    (inStep : InStep (namesAlong root supply earlier before names)
      (flowAlong root supply (earlier ++ [edge])).supply
      (flowAlong root supply (before ++ [edge])).supply) :
    Separates (flowAlong root supply (earlier ++ [edge])).supply.next
      (namesAlong root supply earlier before names) := by
  refine separates_extendNames corresponds.separates ?_
  intro number isOld other le lt same
  obtain ⟨otherLe, otherLt⟩ := namesAlong_between inStep le lt
  rw [namesAlong, ← same] at otherLe otherLt
  by_cases isFirst : number < supply.next
  · rw [corresponds.fixes number isFirst] at otherLe
    have beforeLe := (covers_flowAlong root supply before).le
    exact Nat.not_lt.mpr (Nat.le_trans beforeLe otherLe) isFirst
  · obtain ⟨one, isEarlier, given⟩ :=
      corresponds.given number (Nat.not_lt.mp isFirst) isOld
    obtain rfl := given.unique ⟨before, after, otherSplit, otherLe, otherLt⟩
    exact notEarlier isEarlier

/-- Every number given so far is named by one given along the same edge. -/
theorem Corresponds.given_namesAlong
    (corresponds : Corresponds root supply known second earlier names)
    (otherSplit : second = before ++ edge :: after)
    (inStep : InStep (namesAlong root supply earlier before names)
      (flowAlong root supply (earlier ++ [edge])).supply
      (flowAlong root supply (before ++ [edge])).supply)
    (number : DeclId)
    (le : supply.next ≤ number)
    (lt : number < (flowAlong root supply (earlier ++ [edge])).supply.next) :
    ∃ one ∈ earlier ++ [edge],
      GivenAlong root supply second one
        (namesAlong root supply earlier before names number) := by
  by_cases isOld : number < (flowAlong root supply earlier).supply.next
  · obtain ⟨one, isEarlier, given⟩ := corresponds.given number le isOld
    rw [namesAlong, extendNames_of_lt isOld]
    exact ⟨one, List.mem_append_left _ isEarlier, given⟩
  · obtain ⟨otherLe, otherLt⟩ :=
      namesAlong_between inStep (Nat.not_lt.mp isOld) lt
    exact ⟨edge, by simp, before, after, otherSplit, otherLe, otherLt⟩

/-- A class that an edge does not lead into stays a twin. -/
theorem Corresponds.twin_of_other
    (corresponds : Corresponds root supply known second earlier names)
    {other : List Edge}
    (isFront : other <+: second)
    {number : DeclId}
    (into : other.filter (·.2 == number) = (earlier ++ [edge]).filter (·.2 == number))
    {path : Path}
    (looked : root.childPaths.lookup number = some path)
    (ends : EndsAt root known path)
    (elsewhere : path ≠ descendantPath)
    (joins : Joins root edge ancestorPath descendantPath)
    (delivers : Delivers root known (flowAlong root supply earlier) edge
      ancestorPath descendantPath ancestor descendant
      (flowAlong root supply (earlier ++ [edge])))
    (ancestorFound :
      (flowAlong root supply earlier).root.descendant? ancestorPath =
        some ancestor)
    {current otherCurrent : Declaration}
    (leads : (flowAlong root supply (earlier ++ [edge])).root.descendant? path =
      some current)
    (otherLeads :
      (flowAlong root supply other).root.descendant? path = some otherCurrent) :
    Twin (namesAlong root supply earlier before names) current otherCurrent := by
  have notInto : ¬ (edge.2 == number) = true := by
    intro isInto
    obtain rfl := beq_iff_eq.mp isInto
    exact elsewhere
      (Option.some.inj (looked.symm.trans joins.descendant_path))
  rw [List.filter_append, List.filter_cons, if_neg notInto, List.filter_nil,
    List.append_nil] at into
  obtain ⟨before, beforeLeads, grounded⟩ := corresponds.grounded path ends
  obtain ⟨linked, linkedLeads, relinked⟩ :=
    delivers.relinked ancestorFound ends elsewhere beforeLeads
  obtain rfl : current = linked :=
    Option.some.inj (leads.symm.trans linkedLeads)
  obtain ⟨rest, split⟩ := isFront
  have twin := corresponds.twins other rest split.symm number into path looked
    ends before otherCurrent beforeLeads otherLeads
  refine relinked.twin_left (twin.congr fun member isMember number isMentioned => ?_)
  exact (extendNames_of_lt
    (grounded.known member isMember number isMentioned)).symm

/-- The class that an edge leads into receives the same in both runs. -/
theorem Reordered.twin_of_descendant
    (reordered : Reordered root known first second)
    (runs : (flowAlong root supply second).failure = none)
    (otherSplit : second = before ++ edge :: after)
    {other : List Edge}
    (isFront : other <+: second)
    (into : other.filter (·.2 == edge.2) =
      (earlier ++ [edge]).filter (·.2 == edge.2))
    (isKnown : edge ∈ known)
    (joins : Joins root edge ancestorPath descendantPath)
    {names : DeclId → DeclId}
    {received otherReceived otherCurrent : Declaration}
    (twin : Twin names received otherReceived)
    (otherFound :
      (flowAlong root supply (before ++ [edge])).root.descendant?
        descendantPath = some otherReceived)
    (otherLeads :
      (flowAlong root supply other).root.descendant? descendantPath =
        some otherCurrent) :
    Twin names received otherCurrent := by
  have isInto : (edge.2 == edge.2) = true := beq_self_eq_true edge.2
  rw [List.filter_append, List.filter_cons, if_pos isInto, List.filter_nil] at into
  obtain ⟨front, between, rfl, -, noneBetween⟩ :=
    exists_of_filter_eq_append_cons into
  obtain ⟨rest, split⟩ := isFront
  -- The edge is at one place only, so the other run has followed it there.
  obtain rfl : before = front :=
    reordered.secondOrderly.earlier_eq otherSplit
      (split.symm.trans (by simp : _ = front ++ edge :: (between ++ rest)))
  have notInto (one : Edge) (isBetween : one ∈ between) : one.2 ≠ edge.2 := by
    intro isInto
    have listed : one ∈ between.filter (·.2 == edge.2) :=
      List.mem_filter.mpr ⟨isBetween, beq_iff_eq.mpr isInto⟩
    rw [noneBetween] at listed
    cases listed
  have shape : before ++ edge :: between = before ++ [edge] ++ between := by simp
  rw [shape] at otherLeads split
  have isFront : before ++ [edge] ++ between <+: second := ⟨rest, split⟩
  have running := failure_flowAlong_of_prefix isFront runs
  obtain ⟨linked, linkedLeads, relinked⟩ :=
    reordered.apart.relinked_flowAlong_append
      (List.Subset.trans isFront.subset reordered.second_included) running
      joins.descendant_path (joins.descendant_ends isKnown) notInto otherFound
  obtain rfl : otherCurrent = linked :=
    Option.some.inj (otherLeads.symm.trans linkedLeads)
  exact relinked.twin_right twin

/-- Runs that correspond so far do so after the next edge. -/
theorem Corresponds.step
    (corresponds : Corresponds root supply known second earlier names)
    (reordered : Reordered root known first second)
    (numbered : NumberedFrom supply root)
    (runs : (flowAlong root supply second).failure = none)
    (split : first = earlier ++ edge :: later) :
    ∃ extended, Corresponds root supply known second (earlier ++ [edge])
      extended := by
  have isFirst : edge ∈ first := by simp [split]
  have isKnown := reordered.included isFirst
  have earlierIncluded : earlier ⊆ known := fun one isEarlier =>
    reordered.included (split ▸ List.mem_append_left _ isEarlier)
  obtain ⟨before, after, otherSplit, sameAncestor, sameDescendant⟩ :=
    reordered.exists_counterpart split
  have otherFront : before ++ [edge] <+: second := ⟨after, by simp [otherSplit]⟩
  have beforeIncluded : before ⊆ known := fun one isBefore =>
    reordered.second_included (otherSplit ▸ List.mem_append_left _ isBefore)
  have otherRuns := failure_flowAlong_of_prefix otherFront runs
  have otherRunning :=
    failure_flowAlong_of_prefix (List.prefix_append before [edge]) otherRuns
  obtain ⟨ancestorPath, descendantPath, joins⟩ :=
    reordered.apart.joined edge isKnown
  obtain ⟨ancestor, descendant, passes⟩ :=
    reordered.apart.exists_passes earlierIncluded isKnown joins supply
  obtain ⟨otherAncestor, otherDescendant, otherPasses⟩ :=
    reordered.apart.exists_passes beforeIncluded isKnown joins supply
  have mirrors := corresponds.mirrors numbered isKnown otherSplit sameAncestor
    sameDescendant passes otherPasses
  -- What the other run accepts this one accepts, so it goes on.
  have entered :
      (received (flowAlong root supply earlier) edge ancestor
        descendant).failure = none := by
    rw [← mirrors.failure_eq, ← otherPasses.failure_eq reordered.apart isKnown
      otherRunning]
    exact otherRuns
  have goesOn : (flowAlong root supply (earlier ++ [edge])).failure = none :=
    (passes.failure_eq reordered.apart isKnown corresponds.running).trans entered
  have delivers := passes.delivers reordered.apart isKnown goesOn
  have otherDelivers := otherPasses.delivers reordered.apart isKnown otherRuns
  have inStep := mirrors.inStep
  rw [← delivers.supply_eq, ← otherDelivers.supply_eq] at inStep
  have separates := corresponds.separates_namesAlong
    (reordered.firstOrderly.not_mem_around split).1 otherSplit inStep
  have earlierNumbered := numberedFrom_flowAlong numbered earlier
  have nextLe := (covers_flowAlong root supply (earlier ++ [edge])).le
  have grounded := delivers.groundedEnds earlierNumbered joins isKnown
    passes.ancestor_found passes.descendant_found corresponds.grounded
  have fixes := corresponds.fixes_namesAlong before
  refine ⟨namesAlong root supply earlier before names,
    { running := goesOn
      grounded := grounded
      fixes := fixes
      separates := separates
      given := corresponds.given_namesAlong otherSplit inStep
      twins := ?_ }⟩
  intro other rest frontSplit number into path looked ends current otherCurrent
    leads otherLeads
  have isFront : other <+: second := ⟨rest, frontSplit.symm⟩
  by_cases isDescendant : path = descendantPath
  · subst isDescendant
    obtain rfl : number = edge.2 :=
      lookup_childPaths_inj looked joins.descendant_path
    obtain rfl : current = _ :=
      Option.some.inj (leads.symm.trans delivers.descendant_eq)
    have receivedGrounded := corresponds.grounded.received earlierNumbered joins
      isKnown passes.ancestor_found passes.descendant_found
    rw [← delivers.supply_eq] at receivedGrounded
    exact reordered.twin_of_descendant runs otherSplit isFront into isKnown joins
      (mirrors.target.sortMembers fixes separates nextLe
        receivedGrounded.listed receivedGrounded.member_lt)
      otherDelivers.descendant_eq otherLeads
  · exact corresponds.twin_of_other isFront into looked ends isDescendant joins
      delivers passes.ancestor_found leads otherLeads

end

/-- Two orders of the same edges give runs that correspond, as far as one runs. -/
theorem Reordered.exists_corresponds
    (reordered : Reordered root known first second)
    (closed : Closed supply root)
    (runs : (flowAlong root supply second).failure = none)
    (split : first = earlier ++ later) :
    ∃ names, Corresponds root supply known second earlier names := by
  induction earlier using List.reverseRecOn generalizing later with
  | nil =>
      exact ⟨_, corresponds_nil reordered closed runs⟩
  | append_singleton earlier edge inductionHypothesis =>
      rw [List.append_assoc, List.singleton_append] at split
      obtain ⟨names, corresponds⟩ := inductionHypothesis split
      exact corresponds.step reordered closed.numbered runs split

end Hierarchy

end ApiTree.Decl
