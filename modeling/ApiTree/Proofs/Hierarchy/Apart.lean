import ApiTree.Proofs.Hierarchy.Links

namespace ApiTree.Decl

/-!
# Classes that stand apart

If no class of a hierarchy stands inside another, an edge changes the two classes
at its ends and nothing else.  So what becomes of a class depends on the edges
that lead into it only, but for the classes that are entered as extending it.
-/

/-- What a node is apart from its members. -/
def Declaration.top (declaration : Declaration) :
    Info × List Declaration × List Declaration :=
  (declaration.info, declaration.signatures, declaration.parameters)

namespace Declaration

/-- Replacing a descendant changes members only on the way to it. -/
theorem map_top_replaceAt
    {declaration : Declaration}
    {path other : Path}
    (replacement : Declaration)
    (notBelow : ¬ path <+: other) :
    ((declaration.replaceAt replacement path).descendant? other).map top =
      (declaration.descendant? other).map top := by
  induction path generalizing declaration other with
  | nil =>
      exact (notBelow List.nil_prefix).elim
  | cons index rest inductionHypothesis =>
      cases isChild : declaration.children[index]? with
      | none =>
          simp [replaceAt, isChild]
      | some child =>
          rw [replaceAt_cons isChild]
          cases other with
          | nil =>
              cases declaration
              rfl
          | cons otherIndex otherRest =>
              rw [descendant?, descendant?, children_setChildren]
              by_cases same : index = otherIndex
              · subst same
                obtain ⟨inside, -⟩ := List.getElem?_eq_some_iff.mp isChild
                rw [List.getElem?_set_self inside, isChild]
                exact inductionHypothesis fun below =>
                  notBelow (List.cons_prefix_cons.mpr ⟨rfl, below⟩)
              · rw [List.getElem?_set_ne same]

theorem map_top_updateAt
    {declaration : Declaration}
    {path other : Path}
    (change : Declaration → Declaration)
    (notBelow : ¬ path <+: other) :
    ((declaration.updateAt path change).descendant? other).map top =
      (declaration.descendant? other).map top := by
  cases leads : declaration.descendant? path with
  | none =>
      rw [updateAt_of_none leads]
  | some found =>
      rw [updateAt_eq_replaceAt leads]
      exact map_top_replaceAt _ notBelow

end Declaration

namespace Hierarchy

open Inheriting

/-- That no class at an end of an edge stands inside another one. -/
def Unnested
    (root : Declaration)
    (known : List Edge) :
    Prop :=
  ∀ outer inner, EndsAt root known outer → EndsAt root known inner →
    outer <+: inner → outer = inner

/-- That both ends of an edge are in the tree. -/
structure Joins
    (root : Declaration)
    (edge : Edge)
    (ancestorPath descendantPath : Path) :
    Prop where
  ancestor_path : root.childPaths.lookup edge.1 = some ancestorPath
  descendant_path : root.childPaths.lookup edge.2 = some descendantPath

variable
    {root tree : Declaration}
    {supply : IdSupply}
    {known earlier : List Edge}
    {edge : Edge}
    {path ancestorPath descendantPath : Path}

theorem Joins.ancestor_ends
    (joins : Joins root edge ancestorPath descendantPath)
    (isKnown : edge ∈ known) :
    EndsAt root known ancestorPath :=
  ⟨edge, isKnown, .inl joins.ancestor_path⟩

theorem Joins.descendant_ends
    (joins : Joins root edge ancestorPath descendantPath)
    (isKnown : edge ∈ known) :
    EndsAt root known descendantPath :=
  ⟨edge, isKnown, .inr joins.descendant_path⟩

/-- Edges between different classes in the tree that stand apart. -/
structure Apart
    (root : Declaration)
    (known : List Edge) :
    Prop where
  unnested : Unnested root known
  joined : ∀ edge ∈ known, ∃ ancestorPath descendantPath,
    Joins root edge ancestorPath descendantPath
  different : ∀ edge ∈ known, edge.1 ≠ edge.2

/-- Different classes stand in different places. -/
theorem lookup_childPaths_inj
    {first second : DeclId}
    (firstLooked : root.childPaths.lookup first = some path)
    (secondLooked : root.childPaths.lookup second = some path) :
    first = second := by
  obtain ⟨found, leads, isFirst⟩ :=
    Declaration.exists_of_lookup_childPaths firstLooked
  obtain ⟨other, otherLeads, isSecond⟩ :=
    Declaration.exists_of_lookup_childPaths secondLooked
  obtain rfl : found = other := Option.some.inj (leads.symm.trans otherLeads)
  exact isFirst.symm.trans isSecond

/-! ## Replacing classes -/

/-- Replacing a class leaves the classes elsewhere alone. -/
theorem Unnested.descendant?_replaceAt
    (unnested : Unnested root known)
    {other : Path}
    (ends : EndsAt root known path)
    (otherEnds : EndsAt root known other)
    (apart : other ≠ path)
    (replacement : Declaration) :
    (tree.replaceAt replacement path).descendant? other =
      tree.descendant? other :=
  Declaration.descendant?_replaceAt_of_not_prefix replacement
    (fun isPrefix => apart (unnested _ _ ends otherEnds isPrefix).symm)
    (fun isPrefix => apart (unnested _ _ otherEnds ends isPrefix))

theorem Unnested.descendant?_updateAt
    (unnested : Unnested root known)
    {other : Path}
    (ends : EndsAt root known path)
    (otherEnds : EndsAt root known other)
    (apart : other ≠ path)
    (change : Declaration → Declaration) :
    (tree.updateAt path change).descendant? other = tree.descendant? other := by
  cases leads : tree.descendant? path with
  | none =>
      rw [Declaration.updateAt_of_none leads]
  | some found =>
      rw [Declaration.updateAt_eq_replaceAt leads]
      exact unnested.descendant?_replaceAt ends otherEnds apart _

/-! ## One edge -/

/-- What an edge between classes that stand apart does to them. -/
structure Delivers
    (root : Declaration)
    (known : List Edge)
    (before : Inheriting)
    (edge : Edge)
    (ancestorPath descendantPath : Path)
    (ancestor descendant : Declaration)
    (after : Inheriting) :
    Prop where
  runs : after.failure = none
  supply_eq : after.supply = (received before edge ancestor descendant).supply
  descendant_eq : after.root.descendant? descendantPath =
    some (received before edge ancestor descendant).target.sortMembers
  ancestor_eq : after.root.descendant? ancestorPath =
    some (linkBack edge.2 descendant.name ancestor)
  elsewhere : ∀ path, EndsAt root known path →
    path ≠ ancestorPath → path ≠ descendantPath →
      after.root.descendant? path = before.root.descendant? path

/-- An edge fails if a member is refused, and otherwise delivers the members. -/
theorem delivers_propagate
    (unnested : Unnested root known)
    (isKnown : edge ∈ known)
    (different : edge.1 ≠ edge.2)
    {before : Inheriting}
    {ancestor descendant : Declaration}
    (running : before.failure = none)
    (meets : Meets root.childPaths before.root edge ancestorPath descendantPath
      ancestor descendant) :
    (before.propagate root.childPaths edge).failure =
        (received before edge ancestor descendant).failure ∧
      ((received before edge ancestor descendant).failure = none →
        Delivers root known before edge ancestorPath descendantPath ancestor
          descendant (before.propagate root.childPaths edge)) := by
  have joins : Joins root edge ancestorPath descendantPath :=
    ⟨meets.ancestor_path, meets.descendant_path⟩
  have ancestorEnds := joins.ancestor_ends isKnown
  have descendantEnds := joins.descendant_ends isKnown
  have apart : ancestorPath ≠ descendantPath := by
    rintro rfl
    exact different
      (lookup_childPaths_inj meets.ancestor_path meets.descendant_path)
  cases flows_propagate root.childPaths before edge with
  | halted failed => exact (failed running).elim
  | skipped _ notMet => exact (notMet _ _ _ _ meets).elim
  | fails _ _ _ _ error _ other failed _ _ failure_eq =>
      obtain ⟨rfl, rfl, rfl, rfl⟩ := meets.unique other
      refine ⟨failure_eq.trans failed.symm, fun entered => ?_⟩
      rw [failed] at entered
      cases entered
  | flows _ _ _ _ _ other entered root_eq supply_eq runs =>
      obtain ⟨rfl, rfl, rfl, rfl⟩ := meets.unique other
      refine ⟨runs.trans entered.symm, fun _ => ?_⟩
      have ancestorKept :
          (before.root.replaceAt
              (received before edge ancestor descendant).target.sortMembers
              descendantPath).descendant? ancestorPath = some ancestor := by
        rw [unnested.descendant?_replaceAt descendantEnds ancestorEnds apart]
        exact meets.ancestor_found
      refine
        { runs := runs
          supply_eq := supply_eq
          descendant_eq := ?_
          ancestor_eq := ?_
          elsewhere := ?_ }
      · rw [root_eq, unnested.descendant?_updateAt ancestorEnds descendantEnds
          apart.symm]
        exact Declaration.descendant?_replaceAt_self meets.descendant_found _
      · rw [root_eq, Declaration.updateAt_eq_replaceAt ancestorKept]
        exact Declaration.descendant?_replaceAt_self ancestorKept _
      · intro path ends notAncestor notDescendant
        rw [root_eq,
          unnested.descendant?_updateAt ancestorEnds ends notAncestor,
          unnested.descendant?_replaceAt descendantEnds ends notDescendant]

/-! ## Along a run -/

theorem Unnested.exists_descendant?_replaceAt
    (unnested : Unnested root known)
    {other : Path}
    {found : Declaration}
    (ends : EndsAt root known path)
    (otherEnds : EndsAt root known other)
    (leads : tree.descendant? path = some found)
    (otherLeads : ∃ current, tree.descendant? other = some current)
    (replacement : Declaration) :
    ∃ current, (tree.replaceAt replacement path).descendant? other =
      some current := by
  by_cases same : other = path
  · subst same
    exact ⟨_, Declaration.descendant?_replaceAt_self leads replacement⟩
  · rw [unnested.descendant?_replaceAt ends otherEnds same]
    exact otherLeads

/-- Classes that stand apart stay in the tree. -/
theorem Unnested.exists_descendant?_flowAlong
    (unnested : Unnested root known)
    {edges : List Edge}
    (included : edges ⊆ known)
    (ends : EndsAt root known path)
    (supply : IdSupply) :
    ∃ current, (flowAlong root supply edges).root.descendant? path =
      some current := by
  refine flowAlong_induction
    (motive := fun now => ∃ current, now.root.descendant? path = some current)
    ends.exists_descendant? ?_
  intro before after edge isEdge flows leads
  have isKnown := included isEdge
  refine flows.root_induction
    (motive := fun tree => ∃ current, tree.descendant? path = some current)
    leads ?_ ?_
  · intro ancestorPath descendantPath ancestor descendant meets
    have replaced := unnested.exists_descendant?_replaceAt
      ⟨edge, isKnown, .inr meets.descendant_path⟩ ends meets.descendant_found leads
    exact ⟨replaced _, replaced _⟩
  · intro ancestorPath descendantPath ancestor descendant meets middle found
      middleLeads foundLeads
    exact unnested.exists_descendant?_replaceAt
      ⟨edge, isKnown, .inl meets.ancestor_path⟩ ends foundLeads middleLeads _

/-- The classes at the ends of an edge that comes next in a run. -/
structure Passes
    (root : Declaration)
    (supply : IdSupply)
    (earlier : List Edge)
    (edge : Edge)
    (ancestorPath descendantPath : Path)
    (ancestor descendant : Declaration) :
    Prop where
  joins : Joins root edge ancestorPath descendantPath
  ancestor_found :
    (flowAlong root supply earlier).root.descendant? ancestorPath = some ancestor
  descendant_found :
    (flowAlong root supply earlier).root.descendant? descendantPath =
      some descendant

theorem Apart.exists_passes
    (apart : Apart root known)
    (included : earlier ⊆ known)
    (isKnown : edge ∈ known)
    (joins : Joins root edge ancestorPath descendantPath)
    (supply : IdSupply) :
    ∃ ancestor descendant,
      Passes root supply earlier edge ancestorPath descendantPath ancestor
        descendant := by
  obtain ⟨ancestor, ancestorFound⟩ :=
    apart.unnested.exists_descendant?_flowAlong included
      (joins.ancestor_ends isKnown) supply
  obtain ⟨descendant, descendantFound⟩ :=
    apart.unnested.exists_descendant?_flowAlong included
      (joins.descendant_ends isKnown) supply
  exact ⟨ancestor, descendant, joins, ancestorFound, descendantFound⟩

section

variable
    {ancestor descendant : Declaration}

theorem Passes.meets
    (passes : Passes root supply earlier edge ancestorPath descendantPath
      ancestor descendant) :
    Meets root.childPaths (flowAlong root supply earlier).root edge ancestorPath
      descendantPath ancestor descendant :=
  ⟨passes.joins.ancestor_path, passes.joins.descendant_path,
    passes.ancestor_found, passes.descendant_found⟩

/-- The next edge fails if and only if a member is refused. -/
theorem Passes.failure_eq
    (passes : Passes root supply earlier edge ancestorPath descendantPath
      ancestor descendant)
    (apart : Apart root known)
    (isKnown : edge ∈ known)
    (running : (flowAlong root supply earlier).failure = none) :
    (flowAlong root supply (earlier ++ [edge])).failure =
      (received (flowAlong root supply earlier) edge ancestor
        descendant).failure := by
  rw [flowAlong_concat]
  exact (delivers_propagate apart.unnested isKnown
    (apart.different edge isKnown) running passes.meets).1

/-- The next edge delivers the members if the run goes on. -/
theorem Passes.delivers
    (passes : Passes root supply earlier edge ancestorPath descendantPath
      ancestor descendant)
    (apart : Apart root known)
    (isKnown : edge ∈ known)
    (runs : (flowAlong root supply (earlier ++ [edge])).failure = none) :
    Delivers root known (flowAlong root supply earlier) edge ancestorPath
      descendantPath ancestor descendant
      (flowAlong root supply (earlier ++ [edge])) := by
  have running :=
    failure_flowAlong_of_prefix (List.prefix_append earlier [edge]) runs
  have entered := (passes.failure_eq apart isKnown running).symm.trans runs
  rw [flowAlong_concat]
  exact (delivers_propagate apart.unnested isKnown
    (apart.different edge isKnown) running passes.meets).2 entered

end

/-! ## What extends a class -/

/-- The link back along an edge. -/
def backLink
    (root : Declaration)
    (edge : Edge) :
    Link :=
  let descendant? :=
    (root.childPaths.lookup edge.2).bind fun path => root.descendant? path
  ⟨(descendant?.map Declaration.name).getD "", some edge.2⟩

/-- What a class has kept, and its links back along the edges out of it. -/
structure LinkedBack
    (root : Declaration)
    (edges : List Edge)
    (number : DeclId)
    (declared current : Declaration) :
    Prop where
  id_eq : current.id = declared.id
  name_eq : current.name = declared.name
  signatures_eq : current.signatures = declared.signatures
  parameters_eq : current.parameters = declared.parameters
  extendedBy_eq : current.info.extendedBy =
    declared.info.extendedBy ++
      (edges.filter (·.1 == number)).map (backLink root)

namespace LinkedBack

variable
    {number : DeclId}
    {declared current after : Declaration}

/-- A class that is not the ancestor gets no link back. -/
theorem of_other
    (linkedBack : LinkedBack root earlier number declared current)
    (other : edge.1 ≠ number) :
    LinkedBack root (earlier ++ [edge]) number declared current :=
  { linkedBack with
    extendedBy_eq := by
      rw [linkedBack.extendedBy_eq]
      simp [other] }

/-- What a class receives does not change what it keeps. -/
theorem received
    (linkedBack : LinkedBack root earlier number declared current)
    (before : Inheriting)
    (edge : Edge)
    (ancestor : Declaration) :
    LinkedBack root earlier number declared
      (Inheriting.received before edge ancestor current).target.sortMembers := by
  have regrouped := (regrouped_received before edge ancestor current).trans
    (.of_sortMembers _)
  obtain ⟨groups, infoEq⟩ := regrouped.info_eq
  have idEq := regrouped.id_eq
  have nameEq := regrouped.name_eq
  have signaturesEq := regrouped.signatures_eq
  have parametersEq := regrouped.parameters_eq
  cases current
  exact
    { id_eq := idEq.trans linkedBack.id_eq
      name_eq := nameEq.trans linkedBack.name_eq
      signatures_eq := signaturesEq.trans linkedBack.signatures_eq
      parameters_eq := parametersEq.trans linkedBack.parameters_eq
      extendedBy_eq := by
        rw [infoEq]
        exact linkedBack.extendedBy_eq }

/-- The ancestor gets the link back. -/
theorem linkBack
    {name : String}
    (linkedBack : LinkedBack root earlier edge.1 declared current)
    (linkEq : backLink root edge = ⟨name, some edge.2⟩) :
    LinkedBack root (earlier ++ [edge]) edge.1 declared
      (Inheriting.linkBack edge.2 name current) := by
  cases current
  exact
    { id_eq := linkedBack.id_eq
      name_eq := linkedBack.name_eq
      signatures_eq := linkedBack.signatures_eq
      parameters_eq := linkedBack.parameters_eq
      extendedBy_eq := by
        rw [Inheriting.linkBack, Declaration.info_updateInfo,
          linkedBack.extendedBy_eq]
        simp [linkEq] }

end LinkedBack

/-- That every class links back along the edges followed so far. -/
def AllLinkedBack
    (root : Declaration)
    (supply : IdSupply)
    (known edges : List Edge) :
    Prop :=
  ∀ number path, root.childPaths.lookup number = some path →
    EndsAt root known path → ∀ declared current,
      root.descendant? path = some declared →
        (flowAlong root supply edges).root.descendant? path = some current →
          LinkedBack root edges number declared current

theorem allLinkedBack_nil
    (root : Declaration)
    (supply : IdSupply)
    (known : List Edge) :
    AllLinkedBack root supply known [] := by
  intro number path looked ends declared current leads leadsNow
  obtain rfl : declared = current :=
    Option.some.inj (leads.symm.trans leadsNow)
  exact
    { id_eq := rfl
      name_eq := rfl
      signatures_eq := rfl
      parameters_eq := rfl
      extendedBy_eq := by simp }

/-- The next edge links back its ancestor, and no other class. -/
theorem AllLinkedBack.concat
    (holds : AllLinkedBack root supply known earlier)
    (apart : Apart root known)
    (included : earlier ⊆ known)
    (isKnown : edge ∈ known)
    (runs : (flowAlong root supply (earlier ++ [edge])).failure = none) :
    AllLinkedBack root supply known (earlier ++ [edge]) := by
  intro number path looked ends declared current leads leadsNow
  obtain ⟨ancestorPath, descendantPath, joins⟩ := apart.joined edge isKnown
  obtain ⟨ancestor, descendant, passes⟩ :=
    apart.exists_passes included isKnown joins supply
  have delivers := passes.delivers apart isKnown runs
  obtain ⟨-, ancestorFound, descendantFound⟩ := passes
  by_cases isAncestor : path = ancestorPath
  · subst isAncestor
    obtain rfl : number = edge.1 :=
      lookup_childPaths_inj looked joins.ancestor_path
    obtain rfl : current = _ :=
      Option.some.inj (leadsNow.symm.trans delivers.ancestor_eq)
    have descendantEnds := joins.descendant_ends isKnown
    obtain ⟨declaredDescendant, descendantLeads⟩ :=
      descendantEnds.exists_descendant?
    have descendantLinked :=
      holds edge.2 descendantPath joins.descendant_path descendantEnds
        declaredDescendant descendant descendantLeads descendantFound
    have linkEq : backLink root edge = ⟨descendant.name, some edge.2⟩ := by
      simp [backLink, joins.descendant_path, descendantLeads,
        descendantLinked.name_eq]
    have ancestorLinked :=
      holds edge.1 path looked ends declared ancestor leads ancestorFound
    exact ancestorLinked.linkBack linkEq
  · have other : edge.1 ≠ number := by
      rintro rfl
      exact isAncestor
        (Option.some.inj (looked.symm.trans joins.ancestor_path))
    by_cases isDescendant : path = descendantPath
    · subst isDescendant
      obtain rfl : current = _ :=
        Option.some.inj (leadsNow.symm.trans delivers.descendant_eq)
      have descendantLinked :=
        holds number path looked ends declared descendant leads descendantFound
      exact (descendantLinked.received _ edge ancestor).of_other other
    · rw [delivers.elsewhere path ends isAncestor isDescendant] at leadsNow
      exact (holds number path looked ends declared current leads
        leadsNow).of_other other

/-- Along a run that does not fail every class links back along its edges. -/
theorem Apart.allLinkedBack_flowAlong
    (apart : Apart root known)
    {edges : List Edge}
    (included : edges ⊆ known)
    (runs : (flowAlong root supply edges).failure = none) :
    AllLinkedBack root supply known edges := by
  induction edges using List.reverseRecOn with
  | nil =>
      exact allLinkedBack_nil root supply known
  | append_singleton earlier edge inductionHypothesis =>
      have isKnown : edge ∈ known := included (by simp)
      have earlierIncluded : earlier ⊆ known :=
        List.Subset.trans (List.subset_append_left _ _) included
      have running :=
        failure_flowAlong_of_prefix (List.prefix_append earlier [edge]) runs
      exact (inductionHypothesis earlierIncluded running).concat apart
        earlierIncluded isKnown runs

/-! ## What does not flow into a class -/

/-- A class with other links back. -/
def SameButBackLinks (before after : Declaration) : Prop :=
  ∃ extendedBy,
    after = before.updateInfo fun info => { info with extendedBy := extendedBy }

theorem SameButBackLinks.refl (declaration : Declaration) :
    SameButBackLinks declaration declaration := by
  cases declaration with
  | node info => exact ⟨info.extendedBy, rfl⟩

theorem SameButBackLinks.trans
    {first second third : Declaration}
    (firstChange : SameButBackLinks first second)
    (secondChange : SameButBackLinks second third) :
    SameButBackLinks first third := by
  obtain ⟨earlier, rfl⟩ := firstChange
  obtain ⟨later, rfl⟩ := secondChange
  cases first
  exact ⟨later, rfl⟩

/-- An edge that does not lead into a class can only link it back. -/
theorem Delivers.relinked
    {before after : Inheriting}
    {ancestor descendant current : Declaration}
    (delivers : Delivers root known before edge ancestorPath descendantPath
      ancestor descendant after)
    (ancestorFound : before.root.descendant? ancestorPath = some ancestor)
    (ends : EndsAt root known path)
    (apart : path ≠ descendantPath)
    (leads : before.root.descendant? path = some current) :
    ∃ linked, after.root.descendant? path = some linked ∧
      SameButBackLinks current linked := by
  by_cases isAncestor : path = ancestorPath
  · subst isAncestor
    obtain rfl : current = ancestor :=
      Option.some.inj (leads.symm.trans ancestorFound)
    refine ⟨_, delivers.ancestor_eq, ?_⟩
    cases current with
    | node info => exact ⟨_, rfl⟩
  · rw [delivers.elsewhere path ends isAncestor apart]
    exact ⟨current, leads, .refl current⟩

/-- Edges that do not lead into a class can only link it back. -/
theorem Apart.relinked_flowAlong_append
    (apart : Apart root known)
    {between : List Edge}
    (included : earlier ++ between ⊆ known)
    (runs : (flowAlong root supply (earlier ++ between)).failure = none)
    {number : DeclId}
    (looked : root.childPaths.lookup number = some path)
    (ends : EndsAt root known path)
    (notInto : ∀ edge ∈ between, edge.2 ≠ number)
    {current : Declaration}
    (leads :
      (flowAlong root supply earlier).root.descendant? path = some current) :
    ∃ linked,
      (flowAlong root supply (earlier ++ between)).root.descendant? path =
          some linked ∧
        SameButBackLinks current linked := by
  induction between using List.reverseRecOn with
  | nil =>
      rw [List.append_nil]
      exact ⟨current, leads, .refl current⟩
  | append_singleton between edge inductionHypothesis =>
      rw [← List.append_assoc] at included runs ⊢
      have isKnown : edge ∈ known := included (by simp)
      have earlierIncluded : earlier ++ between ⊆ known :=
        List.Subset.trans (List.subset_append_left _ _) included
      have running :=
        failure_flowAlong_of_prefix (List.prefix_append _ [edge]) runs
      obtain ⟨linked, linkedFound, relinked⟩ :=
        inductionHypothesis earlierIncluded running fun one member =>
          notInto one (List.mem_append_left _ member)
      obtain ⟨ancestorPath, descendantPath, joins⟩ := apart.joined edge isKnown
      obtain ⟨ancestor, descendant, passes⟩ :=
        apart.exists_passes earlierIncluded isKnown joins supply
      have elsewhere : path ≠ descendantPath := by
        rintro rfl
        exact notInto edge (by simp)
          (lookup_childPaths_inj joins.descendant_path looked)
      obtain ⟨again, againFound, relinkedAgain⟩ :=
        (passes.delivers apart isKnown runs).relinked passes.ancestor_found ends
          elsewhere linkedFound
      exact ⟨again, againFound, relinked.trans relinkedAgain⟩

/-! ## Outside of classes -/

/-- Outside of the classes of a hierarchy a run changes nothing. -/
theorem map_top_flowAlong
    {edges : List Edge}
    (included : edges ⊆ known)
    (outside : ∀ ends, EndsAt root known ends → ¬ ends <+: path)
    (supply : IdSupply) :
    ((flowAlong root supply edges).root.descendant? path).map Declaration.top =
      (root.descendant? path).map Declaration.top := by
  refine flowAlong_induction
    (motive := fun now =>
      (now.root.descendant? path).map Declaration.top =
        (root.descendant? path).map Declaration.top) rfl ?_
  intro before after edge isEdge flows same
  have isKnown := included isEdge
  cases flows with
  | halted _ unchanged => exact unchanged ▸ same
  | skipped _ _ unchanged => exact unchanged ▸ same
  | fails ancestorPath descendantPath _ _ _ _ meets _ root_eq =>
      have descendantEnds : EndsAt root known descendantPath :=
        ⟨edge, isKnown, .inr meets.descendant_path⟩
      rw [root_eq, Declaration.map_top_replaceAt _ (outside _ descendantEnds)]
      exact same
  | flows ancestorPath descendantPath _ _ _ meets _ root_eq =>
      have ancestorEnds : EndsAt root known ancestorPath :=
        ⟨edge, isKnown, .inl meets.ancestor_path⟩
      have descendantEnds : EndsAt root known descendantPath :=
        ⟨edge, isKnown, .inr meets.descendant_path⟩
      rw [root_eq, Declaration.map_top_updateAt _ (outside _ ancestorEnds),
        Declaration.map_top_replaceAt _ (outside _ descendantEnds)]
      exact same

end Hierarchy

end ApiTree.Decl
