import ApiTree.Proofs.Decl.Paths
import Mathlib.Data.List.Induction
import Mathlib.Data.List.Pairwise
import Mathlib.Logic.Relation

namespace ApiTree.Decl

/-!
# Paths that were recorded

The paths of a tree are recorded once, under the numbers of the declarations that they
lead to.  They are those that come up when a stack is worked off: its top is recorded
and makes way for its members.  A recorded path leads to the same declaration as long as
the tree only grows, that is as long as declarations are only added after the members
that a node has.
-/

namespace Declaration

/-! ## Working off a stack -/

/-- The members of a declaration as they are put on a stack, the last one on top. -/
def stacked
    (path : Path)
    (members : List Declaration) :
    List (Declaration × Path) :=
  (members.mapIdx fun index child => (child, path ++ [index])).reverse

/-- Records a path under a number that has none yet. -/
def recordPath
    (known : List (DeclId × Path))
    (number : DeclId)
    (path : Path) :
    List (DeclId × Path) :=
  if (known.map (·.1)).contains number then known else known ++ [(number, path)]

/-- The members of a declaration hold the same nodes on a stack as off it. -/
theorem length_nodes_stacked
    (path : Path)
    (members : List Declaration) :
    ((stacked path members).flatMap fun entry => entry.1.nodes).length =
      (members.flatMap nodes).length := by
  have forgetPaths :
      (members.mapIdx fun index child => (child, path ++ [index])).map
          (fun entry => entry.1.nodes.length) =
        members.map fun child => child.nodes.length := by
    induction members using List.reverseRecOn with
    | nil => rfl
    | append_singleton => simp_all [List.mapIdx_append]
  rw [stacked, List.length_flatMap, List.map_reverse, List.sum_reverse, forgetPaths,
    List.length_flatMap]

/-- Works off a stack: its top is recorded and makes way for its members. -/
def workOff
    (known : List (DeclId × Path)) :
    List (Declaration × Path) → List (DeclId × Path)
  | [] => known
  | (top, path) :: rest =>
      workOff (recordPath known top.id path) (stacked path top.children ++ rest)
termination_by stack => (stack.flatMap fun entry => entry.1.nodes).length
decreasing_by
  simp only [List.flatMap_append, List.flatMap_cons, List.length_append,
    length_nodes_stacked, nodes_eq_cons_owned top, owned, List.length_cons]
  omega

/-- The paths of members are those of the stack that the members make. -/
theorem pathsOfChildren_eq_flatMap
    (path : Path)
    (index : Nat)
    (members : List Declaration) :
    pathsOfChildren path index members =
      (members.mapIdx fun offset child => (child, path ++ [index + offset])).reverse.flatMap
        fun entry => entry.1.pathsFrom entry.2 := by
  induction members generalizing index with
  | nil =>
      rfl
  | cons first rest inductionHypothesis =>
      rw [pathsOfChildren, inductionHypothesis, List.mapIdx_cons, List.reverse_cons,
        List.flatMap_append, List.flatMap_singleton]
      simp only [Nat.add_zero, Nat.add_right_comm, Nat.add_assoc]

/-- The top of a stack comes first, then its members, the last one first. -/
theorem pathsFrom_eq_cons
    (declaration : Declaration)
    (path : Path) :
    declaration.pathsFrom path =
      (declaration.id, path) ::
        (stacked path declaration.children).flatMap
          fun entry => entry.1.pathsFrom entry.2 := by
  cases declaration
  simp [pathsFrom, pathsOfChildren_eq_flatMap, stacked]

/-- Which entries are kept depends on which numbers were seen, not on their order. -/
theorem keepFirst_congr
    {first second : List DeclId}
    (same : ∀ number, number ∈ first ↔ number ∈ second)
    (entries : List (DeclId × Path)) :
    keepFirst first entries = keepFirst second entries := by
  induction entries generalizing first second with
  | nil =>
      rfl
  | cons entry rest inductionHypothesis =>
      obtain ⟨number, path⟩ := entry
      simp only [keepFirst, List.contains_iff_mem, same number]
      split
      · exact inductionHypothesis same
      · have sameSeen : ∀ other, other ∈ number :: first ↔ other ∈ number :: second :=
          fun other => by simp [same other]
        rw [inductionHypothesis sameSeen]

/-- Working off a stack adds the first path of every number that was not known. -/
theorem workOff_eq
    (known : List (DeclId × Path))
    (stack : List (Declaration × Path)) :
    workOff known stack =
      known ++ keepFirst (known.map (·.1))
        (stack.flatMap fun entry => entry.1.pathsFrom entry.2) := by
  fun_induction workOff known stack with
  | case1 known =>
      simp [keepFirst]
  | case2 known top path rest inductionHypothesis =>
      rw [inductionHypothesis, List.flatMap_cons, pathsFrom_eq_cons, List.cons_append,
        List.flatMap_append, keepFirst, recordPath]
      split
      · rfl
      · rw [List.append_assoc, List.singleton_append]
        congr 2
        exact keepFirst_congr (by simp [or_comm]) _

/-- The recorded paths are what working off a stack gives that holds the tree itself. -/
theorem childPaths_eq_workOff (declaration : Declaration) :
    declaration.childPaths = workOff [] [(declaration, [])] := by
  simp [workOff_eq, childPaths]

/-! ## Numbers that have a path -/

/-- Every number keeps one entry, and none that was seen before. -/
theorem nodup_keepFirst
    (seen : List DeclId)
    (entries : List (DeclId × Path)) :
    ((keepFirst seen entries).map (·.1)).Nodup ∧
      ∀ number ∈ (keepFirst seen entries).map (·.1), number ∉ seen := by
  induction entries generalizing seen with
  | nil =>
      exact ⟨List.nodup_nil, fun number isKept => (List.not_mem_nil isKept).elim⟩
  | cons entry rest inductionHypothesis =>
      obtain ⟨number, path⟩ := entry
      rw [keepFirst]
      split
      · exact inductionHypothesis seen
      · rename_i unseen
        obtain ⟨restNodup, restUnseen⟩ := inductionHypothesis (number :: seen)
        rw [List.map_cons]
        refine ⟨List.nodup_cons.mpr ⟨fun isKept => ?_, restNodup⟩,
          List.forall_mem_cons.mpr ⟨by simpa using unseen, fun other isKept => ?_⟩⟩
        · exact restUnseen number isKept List.mem_cons_self
        · exact fun isSeen => restUnseen other isKept (List.mem_cons_of_mem _ isSeen)

/-- A path is recorded for the numbers that are reached, and for no others. -/
theorem mem_map_childPaths_iff
    {declaration : Declaration}
    {number : DeclId} :
    number ∈ declaration.childPaths.map (·.1) ↔ declaration.Reaches number := by
  constructor
  · intro isKept
    obtain ⟨⟨_, path⟩, isEntry, rfl⟩ := List.mem_map.mp isKept
    obtain ⟨below, found, -, leads, isNumber⟩ :=
      mem_pathsFrom_iff.mp (mem_of_mem_keepFirst isEntry)
    exact ⟨below, found, leads, isNumber⟩
  · rintro ⟨path, found, leads, rfl⟩
    obtain ⟨kept, looked⟩ := exists_lookup_childPaths leads
    exact List.mem_map.mpr ⟨_, mem_of_lookup_eq_some looked, rfl⟩

/-- What is no member of its owner is below a member of the top, or below none of them. -/
theorem mem_child_or_parts
    {declaration owner part : Declaration}
    (isNode : owner ∈ declaration.nodes)
    (isPart : part ∈ owner.signatures ++ owner.parameters) :
    (∃ child ∈ declaration.children, owner ∈ child.nodes ∧ part.id ∈ child.ids) ∨
      part.id ∈ declaration.signatures.flatMap ids ++
        declaration.parameters.flatMap ids := by
  have isOwned : part.id ∈ owner.signatures.flatMap ids ++
      owner.parameters.flatMap ids := by
    rw [← List.flatMap_append]
    exact List.mem_flatMap.mpr ⟨part, isPart, part.id_mem_ids⟩
  have inNode {one : Declaration} (isOne : owner ∈ one.nodes) : part.id ∈ one.ids := by
    refine (ids_sublist_of_mem_nodes isOne).subset ?_
    rw [ids_eq_cons_ownedIds, ownedIds_eq]
    exact List.mem_cons_of_mem _ (List.mem_append_right _ isOwned)
  rw [nodes_eq_cons_owned] at isNode
  simp only [owned, List.mem_cons, List.mem_append, List.mem_flatMap] at isNode
  rcases isNode with rfl | ⟨child, isChild, below⟩ | ⟨one, isOne, below⟩ |
    ⟨one, isOne, below⟩
  · exact .inr isOwned
  · exact .inl ⟨child, isChild, below, inNode below⟩
  · exact .inr (List.mem_append_left _
      (List.mem_flatMap.mpr ⟨one, isOne, inNode below⟩))
  · exact .inr (List.mem_append_right _
      (List.mem_flatMap.mpr ⟨one, isOne, inNode below⟩))

/-- No path leads to a signature or a parameter, if no number occurs twice. -/
theorem not_reaches_of_mem_parts
    {declaration owner part : Declaration}
    (distinct : declaration.ids.Nodup)
    (isNode : owner ∈ declaration.nodes)
    (isPart : part ∈ owner.signatures ++ owner.parameters) :
    ¬ declaration.Reaches part.id := by
  rintro ⟨path, found, leads, sameId⟩
  induction path generalizing declaration with
  | nil =>
      cases leads
      rw [ids_eq_cons_ownedIds, List.nodup_cons] at distinct
      refine distinct.1 (sameId ▸ ?_)
      rw [ownedIds_eq]
      rcases mem_child_or_parts isNode isPart with ⟨child, isChild, -, inChild⟩ | inParts
      · exact List.mem_append_left _ (List.mem_flatMap.mpr ⟨child, isChild, inChild⟩)
      · exact List.mem_append_right _ inParts
  | cons index rest inductionHypothesis =>
      obtain ⟨other, isOther, leadsOn⟩ := descendant?_cons_eq_some_iff.mp leads
      have isMember := List.mem_of_getElem? isOther
      have inOther : part.id ∈ other.ids :=
        sameId ▸ ids_subset_of_descendant? leadsOn found.id_mem_ids
      have ownedDistinct := distinct
      rw [ids_eq_cons_ownedIds, List.nodup_cons, ownedIds_eq] at ownedDistinct
      obtain ⟨membersDistinct, -, apart⟩ := List.nodup_append.mp ownedDistinct.2
      rcases mem_child_or_parts isNode isPart with
        ⟨child, isChild, below, inChild⟩ | inParts
      · by_cases same : child = other
        · subst same
          exact inductionHypothesis (nodup_ids_of_child distinct isChild) below leadsOn
        · have symmetric : Std.Symm (Function.onFun List.Disjoint ids) :=
            ⟨fun _ _ separate => List.disjoint_symm separate⟩
          exact (List.nodup_flatMap.mp membersDistinct).2.forall isChild isMember same
            inChild inOther
      · exact apart part.id (List.mem_flatMap.mpr ⟨other, isMember, inOther⟩) part.id
          inParts rfl

/-! ## Growing -/

/-- That a declaration is added after the members of some node of a tree. -/
inductive Grows (added : Declaration) : Declaration → Declaration → Prop where
  | here
      (declaration : Declaration) :
      Grows added declaration (declaration.addChild added)
  | inChild
      {info : Info}
      {children signatures parameters : List Declaration}
      {index : Nat}
      {child grown : Declaration}
      (found : children[index]? = some child)
      (grows : Grows added child grown) :
      Grows added (.node info children signatures parameters)
        (.node info (children.set index grown) signatures parameters)
  | inSignature
      {info : Info}
      {children signatures parameters : List Declaration}
      {index : Nat}
      {signature grown : Declaration}
      (found : signatures[index]? = some signature)
      (grows : Grows added signature grown) :
      Grows added (.node info children signatures parameters)
        (.node info children (signatures.set index grown) parameters)
  | inParameter
      {info : Info}
      {children signatures parameters : List Declaration}
      {index : Nat}
      {parameter grown : Declaration}
      (found : parameters[index]? = some parameter)
      (grows : Grows added parameter grown) :
      Grows added (.node info children signatures parameters)
        (.node info children signatures (parameters.set index grown))

namespace Grows

variable {added before after : Declaration}

theorem info_eq (grows : Grows added before after) : after.info = before.info := by
  cases grows with
  | here => exact info_addChild before added
  | inChild => rfl
  | inSignature => rfl
  | inParameter => rfl

theorem id_eq (grows : Grows added before after) : after.id = before.id :=
  congrArg Info.id grows.info_eq

/-- A member stays at its position; it is the same, or has grown. -/
theorem child_after
    (grows : Grows added before after)
    {position : Nat}
    {child : Declaration}
    (isChild : before.children[position]? = some child) :
    ∃ grown, after.children[position]? = some grown ∧
      (grown = child ∨ Grows added child grown) := by
  cases grows with
  | here =>
      obtain ⟨inside, -⟩ := List.getElem?_eq_some_iff.mp isChild
      refine ⟨child, ?_, .inl rfl⟩
      rw [children_addChild, List.getElem?_append_left inside, isChild]
  | @inChild _ children _ _ index one grown isOne growsInside =>
      simp only [children_node] at isChild ⊢
      by_cases same : index = position
      · subst same
        obtain rfl : one = child := Option.some.inj (isOne.symm.trans isChild)
        obtain ⟨inside, -⟩ := List.getElem?_eq_some_iff.mp isOne
        exact ⟨grown, List.getElem?_set_self inside, .inr growsInside⟩
      · exact ⟨child, by rw [List.getElem?_set_ne same, isChild], .inl rfl⟩
  | inSignature => exact ⟨child, isChild, .inl rfl⟩
  | inParameter => exact ⟨child, isChild, .inl rfl⟩

/-- A member is the one that was added, or stood there before and may have grown. -/
theorem child_before
    (grows : Grows added before after)
    {position : Nat}
    {grown : Declaration}
    (isGrown : after.children[position]? = some grown) :
    grown = added ∨
      ∃ child, before.children[position]? = some child ∧
        (grown = child ∨ Grows added child grown) := by
  cases grows with
  | here =>
      rw [children_addChild] at isGrown
      rcases Nat.lt_or_ge position before.children.length with inside | outside
      · rw [List.getElem?_append_left inside] at isGrown
        exact .inr ⟨grown, isGrown, .inl rfl⟩
      · rw [List.getElem?_append_right outside] at isGrown
        exact .inl (List.mem_singleton.mp (List.mem_of_getElem? isGrown))
  | @inChild _ children _ _ index one grownOne isOne growsInside =>
      simp only [children_node] at isGrown ⊢
      by_cases same : index = position
      · subst same
        obtain ⟨inside, -⟩ := List.getElem?_eq_some_iff.mp isOne
        rw [List.getElem?_set_self inside] at isGrown
        obtain rfl := Option.some.inj isGrown
        exact .inr ⟨one, isOne, .inr growsInside⟩
      · rw [List.getElem?_set_ne same] at isGrown
        exact .inr ⟨grown, isGrown, .inl rfl⟩
  | inSignature => exact .inr ⟨grown, isGrown, .inl rfl⟩
  | inParameter => exact .inr ⟨grown, isGrown, .inl rfl⟩

/-- What a path leads to keeps its number. -/
theorem descendant?_after
    (grows : Grows added before after)
    {path : Path}
    {old : Declaration}
    (led : before.descendant? path = some old) :
    ∃ found, after.descendant? path = some found ∧ found.id = old.id := by
  induction path generalizing before after with
  | nil =>
      cases led
      exact ⟨after, rfl, grows.id_eq⟩
  | cons index rest inductionHypothesis =>
      obtain ⟨child, isChild, ledOn⟩ := descendant?_cons_eq_some_iff.mp led
      obtain ⟨grown, isGrown, same | growsInside⟩ := grows.child_after isChild
      · exact ⟨old, descendant?_cons_eq_some_iff.mpr ⟨grown, isGrown, same ▸ ledOn⟩, rfl⟩
      · obtain ⟨found, leadsOn, sameId⟩ := inductionHypothesis growsInside ledOn
        exact ⟨found, descendant?_cons_eq_some_iff.mpr ⟨grown, isGrown, leadsOn⟩, sameId⟩

/-- What a path leads to had its number there before, or is in what was added. -/
theorem descendant?_before
    (grows : Grows added before after)
    {path : Path}
    {found : Declaration}
    (leads : after.descendant? path = some found) :
    found.id ∈ added.ids ∨
      ∃ old, before.descendant? path = some old ∧ old.id = found.id := by
  induction path generalizing before after with
  | nil =>
      cases leads
      exact .inr ⟨before, rfl, grows.id_eq.symm⟩
  | cons index rest inductionHypothesis =>
      obtain ⟨grown, isGrown, leadsOn⟩ := descendant?_cons_eq_some_iff.mp leads
      rcases grows.child_before isGrown with rfl | ⟨child, isChild, same | growsInside⟩
      · exact .inl (ids_subset_of_descendant? leadsOn found.id_mem_ids)
      · exact .inr ⟨found, descendant?_cons_eq_some_iff.mpr
          ⟨child, isChild, same ▸ leadsOn⟩, rfl⟩
      · refine (inductionHypothesis growsInside leadsOn).imp_right ?_
        rintro ⟨old, ledOn, sameId⟩
        exact ⟨old, descendant?_cons_eq_some_iff.mpr ⟨child, isChild, ledOn⟩, sameId⟩

end Grows

/-- That a declaration whose numbers are new is added somewhere in a tree. -/
def Appends (before after : Declaration) : Prop :=
  ∃ added, (∀ number ∈ added.ids, number ∉ before.ids) ∧ Grows added before after

/-! ## Recorded paths -/

/-- That different paths lead to declarations of different numbers. -/
def ReachesApart (declaration : Declaration) : Prop :=
  ∀ firstPath secondPath first second,
    declaration.descendant? firstPath = some first →
      declaration.descendant? secondPath = some second →
        first.id = second.id → firstPath = secondPath

/-- That a path, and no other one, leads to the declaration of a number. -/
structure PathOf
    (declaration : Declaration)
    (number : DeclId)
    (path : Path) :
    Prop where
  leads : ∃ found, declaration.descendant? path = some found ∧ found.id = number
  only : ∀ other found, declaration.descendant? other = some found →
    found.id = number → other = path

/-- Appending leaves the path of a declaration what it is. -/
theorem PathOf.appends
    {before after : Declaration}
    {number : DeclId}
    {path : Path}
    (pathOf : before.PathOf number path)
    (appends : Appends before after) :
    after.PathOf number path := by
  obtain ⟨added, isNew, grows⟩ := appends
  obtain ⟨old, led, isNumber⟩ := pathOf.leads
  constructor
  · obtain ⟨found, leads, sameId⟩ := grows.descendant?_after led
    exact ⟨found, leads, sameId.trans isNumber⟩
  · intro other found leads sameNumber
    rcases grows.descendant?_before leads with inAdded | ⟨older, ledBefore, sameId⟩
    · have wasThere : number ∈ before.ids := Reaches.mem_ids ⟨path, old, led, isNumber⟩
      exact (isNew number (sameNumber ▸ inAdded) wasThere).elim
    · exact pathOf.only other older ledBefore (sameId.trans sameNumber)

/-- So does appending several times. -/
theorem PathOf.appends_all
    {before after : Declaration}
    {number : DeclId}
    {path : Path}
    (pathOf : before.PathOf number path)
    (appends : Relation.ReflTransGen Appends before after) :
    after.PathOf number path := by
  induction appends with
  | refl => exact pathOf
  | tail _ step inductionHypothesis => exact inductionHypothesis.appends step

/--
That following a path to change a declaration changes the one of a number, and nothing
that stands beside it.
-/
def ChangesAt
    (declaration : Declaration)
    (number : DeclId)
    (path : Path) :
    Prop :=
  ∀ change, ∃ found, declaration.descendant? path = some found ∧ found.id = number ∧
    (declaration.updateAt path change).descendant? path = some (change found) ∧
    ∀ other, ¬ path <+: other → ¬ other <+: path →
      (declaration.updateAt path change).descendant? other = declaration.descendant? other

theorem PathOf.changesAt
    {declaration : Declaration}
    {number : DeclId}
    {path : Path}
    (pathOf : declaration.PathOf number path) :
    declaration.ChangesAt number path := by
  intro change
  obtain ⟨found, leads, isNumber⟩ := pathOf.leads
  refine ⟨found, leads, isNumber, ?_⟩
  rw [updateAt_eq_replaceAt leads]
  exact ⟨descendant?_replaceAt_self leads _, fun other notBelow notAbove =>
    descendant?_replaceAt_of_not_prefix _ notBelow notAbove⟩

/-- The path that is recorded for a number is the path of its declaration. -/
theorem ReachesApart.pathOf
    {declaration : Declaration}
    {number : DeclId}
    {path : Path}
    (apart : declaration.ReachesApart)
    (looked : declaration.childPaths.lookup number = some path) :
    declaration.PathOf number path := by
  obtain ⟨found, leads, isNumber⟩ := exists_of_lookup_childPaths looked
  exact ⟨⟨found, leads, isNumber⟩, fun other one otherLeads sameNumber =>
    apart other path one found otherLeads leads (sameNumber.trans isNumber.symm)⟩

/--
The paths that are recorded are those that a visit notes that works off a stack of nodes.
If the declarations that paths lead to have different numbers, then one path is recorded
for each of these numbers, and none for any other: none for the number of a signature or
a parameter, which no path leads to, unless it is the number of something else as well.
Following a recorded path, to read or to change, reaches the declaration of its number,
also after declarations with new numbers have been added after the members of any nodes.
-/
theorem recorded_paths_lead_to_their_declarations
    {declaration : Declaration}
    (apart : declaration.ReachesApart) :
    declaration.childPaths = workOff [] [(declaration, [])] ∧
      (declaration.childPaths.map (·.1)).Nodup ∧
      (∀ number, number ∈ declaration.childPaths.map (·.1) ↔
        declaration.Reaches number) ∧
      (declaration.ids.Nodup → ∀ owner ∈ declaration.nodes,
        ∀ part ∈ owner.signatures ++ owner.parameters,
          part.id ∉ declaration.childPaths.map (·.1)) ∧
      ∀ number path, declaration.childPaths.lookup number = some path →
        ∀ grown, Relation.ReflTransGen Appends declaration grown →
          grown.PathOf number path ∧ grown.ChangesAt number path := by
  refine ⟨childPaths_eq_workOff declaration, (nodup_keepFirst [] _).1,
    fun number => mem_map_childPaths_iff, ?_, ?_⟩
  · intro distinct owner isNode part isPart isKey
    exact not_reaches_of_mem_parts distinct isNode isPart (mem_map_childPaths_iff.mp isKey)
  · intro number path looked grown appends
    have pathOf := (apart.pathOf looked).appends_all appends
    exact ⟨pathOf, pathOf.changesAt⟩

/-- The path of the second class stays when a method is added to the first, and a class. -/
theorem recorded_paths_lead_to_their_declarations_of_classes :
    let signature := ofInfo { id := 3, name := "run", kind := .callSignature }
    let run := node { id := 2, name := "run", kind := .method } [] [signature] []
    let first := node { id := 1, name := "First", kind := .classDecl } [run] [] []
    let second := ofInfo { id := 4, name := "Second", kind := .classDecl }
    let root := node { id := 0, name := "python", kind := .project } [first, second] [] []
    let stop := ofInfo { id := 5, name := "stop", kind := .method }
    let third := ofInfo { id := 6, name := "Third", kind := .classDecl }
    let between := node root.info [first.addChild stop, second] [] []
    let grown := between.addChild third
    root.ReachesApart ∧ Relation.ReflTransGen Appends root grown ∧
      root.childPaths = [(0, []), (4, [1]), (1, [0]), (2, [0, 0])] ∧
      grown.PathOf 4 [1] ∧ grown.PathOf 2 [0, 0] := by
  intro signature run first second root stop third between grown
  have apart : root.ReachesApart := fun _ _ _ _ => path_eq_of_id_eq (by decide)
  have inFirst : Grows stop root between :=
    @Grows.inChild stop root.info [first, second] [] [] 0 first _ rfl (.here first)
  have appends : Relation.ReflTransGen Appends root grown :=
    .tail (.single ⟨stop, by decide, inFirst⟩) ⟨third, by decide, .here between⟩
  obtain ⟨-, -, -, -, leads⟩ := recorded_paths_lead_to_their_declarations apart
  exact ⟨apart, appends, by decide, (leads 4 [1] (by decide) grown appends).1,
    (leads 2 [0, 0] (by decide) grown appends).1⟩

end Declaration

end ApiTree.Decl
