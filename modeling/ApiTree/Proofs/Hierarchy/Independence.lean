import ApiTree.Proofs.Decl.Alike
import ApiTree.Proofs.Hierarchy.Reordering

namespace ApiTree.Decl

/-!
# Independence of the order of declaration

If no class stands inside another, hierarchies that record the same edges in
another order resolve alike: the trees are equal but for the numbers of copies and
the order in which a class lists what extends it.  A class that stands inside
another can be copied before it has received its members.
-/

namespace Hierarchy

open Inheriting

variable
    {root : Declaration}
    {supply : IdSupply}
    {known first second : List Edge}
    {names : DeclId → DeclId}

/-! ## Whole trees -/

/-- Twins whose links back are the same, in some order, are alike. -/
theorem alike_of_twin
    {next : Nat}
    {current other : Declaration}
    (twin : Twin names current other)
    (fixes : Fixes next names)
    (mentioned : ∀ number ∈ current.info.mentions, number < next)
    (signatures : ∀ one ∈ current.signatures, ∀ number ∈ one.mentions,
      number < next)
    (parameters : ∀ one ∈ current.parameters, ∀ number ∈ one.mentions,
      number < next)
    (reordered : current.info.extendedBy.Perm other.info.extendedBy) :
    Alike names current other := by
  obtain ⟨⟨extendedBy, infoEq⟩, children_eq, signatures_eq, parameters_eq⟩ := twin
  refine alike_iff.mpr ⟨⟨?_, ?_, ?_⟩, ?_⟩
  · rw [infoEq] at reordered ⊢
    exact infoAlike_of_fixed
      (fun number isMentioned => fixes number (mentioned number isMentioned))
      reordered
  · rw [signatures_eq]
    exact alike_self_of_forall fun one isOne number isMentioned =>
      fixes number (signatures one isOne number isMentioned)
  · rw [parameters_eq]
    exact alike_self_of_forall fun one isOne number isMentioned =>
      fixes number (parameters one isOne number isMentioned)
  · rw [children_eq, List.forall₂_map_right_iff]
    exact List.forall₂_same.mpr fun member _ => alike_rename names member

/-- What is left alone in two trees is alike in them. -/
theorem topAlike_of_top_eq
    {declared current other : Declaration}
    (fixed : ∀ number ∈ declared.mentions, names number = number)
    (sameTop : current.top = declared.top)
    (otherTop : other.top = declared.top) :
    TopAlike names current other := by
  obtain ⟨infoEq, signaturesEq, parametersEq⟩ :
      current.info = declared.info ∧ current.signatures = declared.signatures ∧
        current.parameters = declared.parameters := by
    simpa [Declaration.top] using sameTop
  obtain ⟨otherInfoEq, otherSignaturesEq, otherParametersEq⟩ :
      other.info = declared.info ∧ other.signatures = declared.signatures ∧
        other.parameters = declared.parameters := by
    simpa [Declaration.top] using otherTop
  obtain ⟨info, -, signatures, parameters⟩ := alike_self fixed
  refine ⟨?_, ?_, ?_⟩
  · rw [infoEq, otherInfoEq]
    exact info
  · rw [signaturesEq, otherSignaturesEq]
    exact signatures
  · rw [parametersEq, otherParametersEq]
    exact parameters

/-- The classes of two whole runs are alike. -/
theorem Corresponds.alike_at_end
    (corresponds : Corresponds root supply known second first names)
    (reordered : Reordered root known first second)
    (closed : Closed supply root)
    (runs : (flowAlong root supply second).failure = none)
    {path : Path}
    (ends : EndsAt root known path)
    {current other : Declaration}
    (leads : (flowAlong root supply first).root.descendant? path = some current)
    (otherLeads :
      (flowAlong root supply second).root.descendant? path = some other) :
    Alike names current other := by
  obtain ⟨declared, declaredLeads⟩ := ends.exists_descendant?
  obtain ⟨number, looked⟩ :
      ∃ number, root.childPaths.lookup number = some path := by
    obtain ⟨edge, -, looked | looked⟩ := ends
    · exact ⟨_, looked⟩
    · exact ⟨_, looked⟩
  have linked := reordered.apart.allLinkedBack_flowAlong reordered.included
    corresponds.running number path looked ends declared current declaredLeads
    leads
  have otherLinked := reordered.apart.allLinkedBack_flowAlong
    reordered.second_included runs number path looked ends declared other
    declaredLeads otherLeads
  have twin := corresponds.twins second [] (List.append_nil second).symm number
    (reordered.sameInto number) path looked ends current other leads otherLeads
  have grounded := corresponds.grounded.grounded ends leads
  have mentioned (number : DeclId) (inDeclared : number ∈ declared.mentions) :
      number < supply.next :=
    closed.mentioned number
      (Declaration.mentions_subset_of_descendant? declaredLeads inDeclared)
  refine alike_of_twin twin corresponds.fixes ?_ ?_ ?_ ?_
  · intro number isMentioned
    rcases List.mem_cons.mp isMentioned with isOwn | isListed
    · obtain rfl : number = declared.id := isOwn.trans linked.id_eq
      exact mentioned declared.id
        (Declaration.ids_subset_mentions declared declared.id_mem_ids)
    · obtain ⟨group, isGroup, isEntry⟩ := List.mem_flatMap.mp isListed
      exact grounded.listed group isGroup number isEntry
  · intro one isOne number isMentioned
    rw [linked.signatures_eq] at isOne
    refine mentioned number (declared.ownedMentions_subset_mentions ?_)
    simp only [Declaration.ownedMentions, List.mem_append, List.mem_flatMap]
    exact .inr (.inr (.inl ⟨one, isOne, isMentioned⟩))
  · intro one isOne number isMentioned
    rw [linked.parameters_eq] at isOne
    refine mentioned number (declared.ownedMentions_subset_mentions ?_)
    simp only [Declaration.ownedMentions, List.mem_append, List.mem_flatMap]
    exact .inr (.inr (.inr ⟨one, isOne, isMentioned⟩))
  · rw [linked.extendedBy_eq, otherLinked.extendedBy_eq]
    exact (((reordered.sameInto.perm).filter _).map _).append_left _

/-- The trees of two whole runs are alike. -/
theorem Corresponds.alike
    (corresponds : Corresponds root supply known second first names)
    (reordered : Reordered root known first second)
    (closed : Closed supply root)
    (runs : (flowAlong root supply second).failure = none) :
    Alike names (flowAlong root supply first).root
      (flowAlong root supply second).root := by
  refine alike_of_paths fun path => ?_
  by_cases inside : ∃ front, EndsAt root known front ∧ front <+: path
  · obtain ⟨front, ends, rest, rfl⟩ := inside
    have unnested := reordered.apart.unnested
    obtain ⟨current, leads⟩ :=
      unnested.exists_descendant?_flowAlong reordered.included ends supply
    obtain ⟨other, otherLeads⟩ :=
      unnested.exists_descendant?_flowAlong reordered.second_included ends supply
    have alike := corresponds.alike_at_end reordered closed runs ends leads
      otherLeads
    have below := alike.descendant? rest
    rw [Declaration.descendant?_append, Declaration.descendant?_append, leads,
      otherLeads, Option.bind_some, Option.bind_some]
    generalize current.descendant? rest = found at below ⊢
    generalize other.descendant? rest = otherFound at below ⊢
    cases below with
    | none => exact .none
    | some belowAlike => exact .some (alike_iff.mp belowAlike).1
  · have outside (front : Path) (ends : EndsAt root known front) :
        ¬ front <+: path := fun isFront => inside ⟨front, ends, isFront⟩
    have same := map_top_flowAlong reordered.included outside supply
    have otherSame := map_top_flowAlong reordered.second_included outside supply
    cases leads : root.descendant? path with
    | none =>
        rw [leads, Option.map_none, Option.map_eq_none_iff] at same otherSame
        rw [same, otherSame]
        exact .none
    | some declared =>
        rw [leads, Option.map_some, Option.map_eq_some_iff] at same otherSame
        obtain ⟨current, currentLeads, sameTop⟩ := same
        obtain ⟨other, otherLeads, otherTop⟩ := otherSame
        rw [currentLeads, otherLeads]
        refine .some (topAlike_of_top_eq ?_ sameTop otherTop)
        intro number isMentioned
        exact corresponds.fixes number (closed.mentioned number
          (Declaration.mentions_subset_of_descendant? leads isMentioned))

/-! ## Hierarchies -/

/-- Whether both ends of an edge are in a tree. -/
def joinsIn
    (root : Declaration)
    (edge : Edge) :
    Bool :=
  (root.childPaths.lookup edge.1).isSome &&
    (root.childPaths.lookup edge.2).isSome

/-- Edges that lead nowhere can be left out. -/
theorem flowAlong_filter_joinsIn
    (root : Declaration)
    (supply : IdSupply)
    (edges : List Edge) :
    flowAlong root supply (edges.filter (joinsIn root)) =
      flowAlong root supply edges := by
  induction edges using List.reverseRecOn with
  | nil =>
      rfl
  | append_singleton earlier edge inductionHypothesis =>
      rw [List.filter_append, flowAlong_concat]
      by_cases isJoined : joinsIn root edge = true
      · simp only [List.filter_cons, isJoined, ↓reduceIte, List.filter_nil]
        rw [flowAlong_concat, inductionHypothesis]
      · simp only [List.filter_cons, isJoined, List.filter_nil,
          List.append_nil, Bool.false_eq_true, ↓reduceIte]
        rw [inductionHypothesis]
        symm
        refine (flows_propagate root.childPaths _ edge).skips ?_
        intro ancestorPath descendantPath ancestor descendant meets
        refine isJoined ?_
        simp [joinsIn, meets.ancestor_path, meets.descendant_path]

variable
    {one other : Hierarchy}

/-- Fewer edges have fewer ends. -/
theorem EndsAt.mono
    {edges : List Edge}
    {path : Path}
    (ends : EndsAt root edges path)
    (included : edges ⊆ known) :
    EndsAt root known path := by
  obtain ⟨edge, isEdge, looked⟩ := ends
  exact ⟨edge, included isEdge, looked⟩

theorem Unnested.mono
    {edges : List Edge}
    (unnested : Unnested root known)
    (included : edges ⊆ known) :
    Unnested root edges := fun outer inner outerEnds innerEnds isFront =>
  unnested outer inner (outerEnds.mono included) (innerEnds.mono included) isFront

/-- The schedules of rearranged hierarchies are two orders of the same edges. -/
theorem Rearranged.reordered
    (rearranged : Rearranged one other)
    (acyclic : Acyclic one.resolvedEdges)
    (unnested : Unnested root one.resolvedEdges) :
    Reordered root (one.resolvedEdges.filter (joinsIn root))
      ((schedule one.resolvedEdges).filter (joinsIn root))
      ((schedule other.resolvedEdges).filter (joinsIn root)) := by
  have sameInto := rearranged.sameInto
  have otherAcyclic := sameInto.acyclic acyclic
  refine
    { apart :=
        { unnested := unnested.mono (List.filter_subset_self _)
          joined := ?_
          different := ?_ }
      included := ?_
      sameInto := sameInto.schedule.filter _
      firstOrderly :=
        (orderly_schedule acyclic (nodup_resolvedEdges one)).filter _
      secondOrderly :=
        (orderly_schedule otherAcyclic (nodup_resolvedEdges other)).filter _ }
  · intro edge isEdge
    have isJoined := (List.mem_filter.mp isEdge).2
    rw [joinsIn, Bool.and_eq_true, Option.isSome_iff_exists,
      Option.isSome_iff_exists] at isJoined
    obtain ⟨⟨ancestorPath, ancestorLooked⟩, descendantPath, descendantLooked⟩ :=
      isJoined
    exact ⟨ancestorPath, descendantPath, ancestorLooked, descendantLooked⟩
  · intro edge isEdge
    exact acyclic.ne (List.mem_of_mem_filter isEdge)
  · intro edge isEdge
    obtain ⟨scheduled, isJoined⟩ := List.mem_filter.mp isEdge
    exact List.mem_filter.mpr ⟨schedule_subset _ scheduled, isJoined⟩

/-- If one of two rearranged hierarchies resolves, so does the other, alike. -/
theorem Rearranged.alike_resolve
    (rearranged : Rearranged one other)
    (acyclic : Acyclic one.resolvedEdges)
    (unnested : Unnested root one.resolvedEdges)
    (closed : Closed supply root)
    (runs : (other.resolve root supply).failure = none) :
    (one.resolve root supply).failure = none ∧
      ∃ names, Fixes supply.next names ∧
        Separates (one.resolve root supply).supply.next names ∧
        Alike names (one.resolve root supply).root
          (other.resolve root supply).root := by
  have reordered := rearranged.reordered acyclic unnested
  rw [resolve_eq_flowAlong, ← flowAlong_filter_joinsIn] at runs
  obtain ⟨names, corresponds⟩ := reordered.exists_corresponds closed runs
    (List.append_nil _).symm
  rw [resolve_eq_flowAlong, resolve_eq_flowAlong,
    ← flowAlong_filter_joinsIn root supply (schedule one.resolvedEdges),
    ← flowAlong_filter_joinsIn root supply (schedule other.resolvedEdges)]
  exact ⟨corresponds.running, names, corresponds.fixes, corresponds.separates,
    corresponds.alike reordered closed runs⟩

/--
If no class of a hierarchy stands inside another, it does not matter in which order
classes are declared, as long as each names its bases in the same order: one order
resolves if and only if the other does, and then the trees are the same but for
the numbers of copies and the order in which a class lists what extends it.
-/
theorem resolve_independent_of_order
    (rearranged : Rearranged one other)
    (acyclic : Acyclic one.resolvedEdges)
    (unnested : Unnested root one.resolvedEdges)
    (closed : Closed supply root) :
    let resolved := one.resolve root supply
    let otherResolved := other.resolve root supply
    (resolved.failure = none ↔ otherResolved.failure = none) ∧
      (resolved.failure = none →
        ∃ names, Fixes supply.next names ∧
          Separates resolved.supply.next names ∧
          Alike names resolved.root otherResolved.root) := by
  have sameInto := rearranged.sameInto
  have included : other.resolvedEdges ⊆ one.resolvedEdges := fun _ isEdge =>
    sameInto.mem_iff.mp isEdge
  have back (resolves : (one.resolve root supply).failure = none) :
      (other.resolve root supply).failure = none :=
    (rearranged.symm.alike_resolve (sameInto.acyclic acyclic)
      (unnested.mono included) closed resolves).1
  refine ⟨⟨back, fun runs => ?_⟩, fun resolves => ?_⟩
  · exact (rearranged.alike_resolve acyclic unnested closed runs).1
  · exact (rearranged.alike_resolve acyclic unnested closed (back resolves)).2

/-! ## Classes beside each other and inside each other -/

/-- Classes that are members of the root stand apart. -/
theorem unnested_of_top
    (top : ∀ number ∈ endpoints known,
      (root.childPaths.lookup number).all (·.length == 1) = true) :
    Unnested root known := by
  have length_eq {path : Path} (ends : EndsAt root known path) :
      path.length = 1 := by
    obtain ⟨edge, isEdge, looked | looked⟩ := ends
    · have isTop := top edge.1 (mem_endpoints_iff.mpr ⟨edge, isEdge, .inl rfl⟩)
      simpa [looked] using isTop
    · have isTop := top edge.2 (mem_endpoints_iff.mpr ⟨edge, isEdge, .inr rfl⟩)
      simpa [looked] using isTop
  exact fun outer inner outerEnds innerEnds isFront =>
    isFront.eq_of_length ((length_eq outerEnds).trans (length_eq innerEnds).symm)

/-- A tree in which nothing was inherited yet has no origins to mention. -/
theorem closed_of_own
    (numbered : NumberedFrom supply root)
    (mentioned : ∀ number ∈ root.mentions, number < supply.next)
    (own : ∀ info ∈ root.infos, info.inheritedFrom = none) :
    Closed supply root where
  numbered := numbered
  mentioned := mentioned
  origins := by
    intro info member origin inherited
    rw [own info member] at inherited
    cases inherited

/-- Two classes with a method, and for each a class that extends it. -/
def pairedClasses : Declaration :=
  .node { id := 0, name := "project", kind := .project }
    [ .node { id := 1, name := "Runner", kind := .classDecl }
        [.ofInfo { id := 2, name := "run", kind := .method }] [] [],
      .node { id := 3, name := "Helper", kind := .classDecl }
        [.ofInfo { id := 4, name := "help", kind := .method }] [] [],
      .ofInfo { id := 5, name := "FastRunner", kind := .classDecl },
      .ofInfo { id := 6, name := "FastHelper", kind := .classDecl } ]
    [] []

/-- The classes that extend the two, as they are declared. -/
def pairedHierarchy (edges : List Extends) : Hierarchy where
  classes := [("Helper", 3), ("Runner", 1)]
  edges := edges

/-- Whichever class is declared first, both get the same, under other numbers. -/
theorem resolve_independent_of_order_of_pairs :
    let runnerFirst := pairedHierarchy [⟨"Runner", 5⟩, ⟨"Helper", 6⟩]
    let helperFirst := pairedHierarchy [⟨"Helper", 6⟩, ⟨"Runner", 5⟩]
    let resolved := runnerFirst.resolve pairedClasses ⟨7⟩
    let otherResolved := helperFirst.resolve pairedClasses ⟨7⟩
    resolved.root.ids ≠ otherResolved.root.ids ∧
      otherResolved.failure = none ∧
      ∃ names, Fixes 7 names ∧ Separates resolved.supply.next names ∧
        Alike names resolved.root otherResolved.root := by
  have rearranged := rearranged_swap [("Helper", 3), ("Runner", 1)] [] []
    (show (⟨"Runner", 5⟩ : Extends).descendant ≠
      (⟨"Helper", 6⟩ : Extends).descendant by decide)
  have closed : Closed ⟨7⟩ pairedClasses :=
    closed_of_own ⟨by decide, by decide⟩ (by decide) (by decide)
  obtain ⟨bothRun, alike⟩ := resolve_independent_of_order rearranged
    (acyclic_of_lt (by decide)) (unnested_of_top (by decide)) closed
  have runs :
      ((pairedHierarchy [⟨"Runner", 5⟩, ⟨"Helper", 6⟩]).resolve pairedClasses
        ⟨7⟩).failure = none := by
    decide +kernel
  exact ⟨by decide +kernel, bothRun.mp runs, alike runs⟩

/-- A class with a nested one that extends another class, and a class that extends it. -/
def outerClasses : Declaration :=
  .node { id := 0, name := "project", kind := .project }
    [ .node { id := 1, name := "Helper", kind := .classDecl }
        [.ofInfo { id := 2, name := "help", kind := .method }] [] [],
      .node { id := 3, name := "Base", kind := .classDecl }
        [.ofInfo { id := 4, name := "Inner", kind := .classDecl }] [] [],
      .ofInfo { id := 5, name := "Derived", kind := .classDecl } ]
    [] []

/-- The classes that extend the outer class and that the nested one extends. -/
def outerHierarchy (edges : List Extends) : Hierarchy where
  classes := [("Base", 3), ("Helper", 1)]
  edges := edges

/-- The members of the last class, each with the names of its own members. -/
def derivedMembers (resolved : Inheriting) : Option (List (String × List String)) :=
  (resolved.root.descendant? [2]).map fun derived =>
    derived.children.map fun member =>
      (member.name, member.children.map Declaration.name)

/--
A nested class that has not received its own members yet is copied without them: what
the last class gets depends on which edge was recorded first.
-/
theorem copied_before_complete :
    let derivedFirst := outerHierarchy [⟨"Base", 5⟩, ⟨"Helper", 4⟩]
    let innerFirst := outerHierarchy [⟨"Helper", 4⟩, ⟨"Base", 5⟩]
    let resolved := derivedFirst.resolve outerClasses ⟨6⟩
    let otherResolved := innerFirst.resolve outerClasses ⟨6⟩
    Closed ⟨6⟩ outerClasses ∧
      Rearranged derivedFirst innerFirst ∧
      Acyclic derivedFirst.resolvedEdges ∧
      resolved.failure = none ∧
      otherResolved.failure = none ∧
      derivedMembers resolved = some [("Inner", [])] ∧
      derivedMembers otherResolved = some [("Inner", ["help"])] := by
  have rearranged := rearranged_swap [("Base", 3), ("Helper", 1)] [] []
    (show (⟨"Base", 5⟩ : Extends).descendant ≠
      (⟨"Helper", 4⟩ : Extends).descendant by decide)
  refine ⟨?_, rearranged, acyclic_of_lt (by decide), by decide +kernel,
    by decide +kernel, by decide +kernel, by decide +kernel⟩
  exact closed_of_own ⟨by decide, by decide⟩ (by decide) (by decide)

end Hierarchy

end ApiTree.Decl
