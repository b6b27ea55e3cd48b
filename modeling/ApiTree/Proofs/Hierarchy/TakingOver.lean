import ApiTree.Proofs.Hierarchy.Attribution

namespace ApiTree.Decl

/-!
# What is lost when members are taken over

A member without a summary takes over all of the ancestor's member of its name.  This
happens at one place, and at one point of the run: everything else stays where it is,
and what the member owned before is lost.
-/

/-! ## What is left where it is -/

/-- Being kept twice is being kept. -/
theorem Kept.trans
    {first second third : Declaration}
    (firstKept : Kept first second)
    (secondKept : Kept second third) :
    Kept first third where
  id_eq := secondKept.id_eq.trans firstKept.id_eq
  name_eq := secondKept.name_eq.trans firstKept.name_eq
  comment_eq documented := by
    have sameComment := firstKept.comment_eq documented
    have stillDocumented : second.info.hasSummary = true := by
      rwa [Info.hasSummary, sameComment]
    rw [secondKept.comment_eq stillDocumented, sameComment]

theorem kept_of_relinked
    {before after : Declaration}
    (relinked : Relinked before.info after.info) :
    Kept before after :=
  ⟨relinked.id_eq, relinked.name_eq, fun _ => relinked.comment_eq⟩

/-- What is found at a path is kept there, unless something around it is taken over. -/
def KeepsUnless
    (takenOver : Path → Prop)
    (before after : Declaration) :
    Prop :=
  ∀ path declared, before.descendant? path = some declared →
    (∀ front, front <+: path → front ≠ path → ¬ takenOver front) →
      ∃ kept, after.descendant? path = some kept ∧ Kept declared kept

namespace KeepsUnless

variable
    {takenOver : Path → Prop}
    {before between after : Declaration}

theorem refl (declaration : Declaration) : KeepsUnless takenOver declaration declaration :=
  fun _ declared leads _ => ⟨declared, leads, rfl, rfl, fun _ => rfl⟩

theorem trans
    (first : KeepsUnless takenOver before between)
    (second : KeepsUnless takenOver between after) :
    KeepsUnless takenOver before after := by
  intro path declared leads apart
  obtain ⟨middle, middleLeads, middleKept⟩ := first path declared leads apart
  obtain ⟨last, lastLeads, lastKept⟩ := second path middle middleLeads apart
  exact ⟨last, lastLeads, middleKept.trans lastKept⟩

/-- What keeps everything apart is kept itself. -/
theorem kept (keeps : KeepsUnless takenOver before after) : Kept before after := by
  obtain ⟨_, leads, isKept⟩ := keeps [] before rfl fun front isFront isProper =>
    (isProper (List.prefix_nil.mp isFront)).elim
  cases leads
  exact isKept

/-- A declaration keeps what is in it if its members do or are taken over. -/
theorem of_children
    (relinked : Relinked before.info after.info)
    (each : ∀ (index : Nat) (child : Declaration), before.children[index]? = some child →
      ∃ changed, after.children[index]? = some changed ∧
        ((takenOver [index] ∧ Kept child changed) ∨
          KeepsUnless (fun below => takenOver (index :: below)) child changed)) :
    KeepsUnless takenOver before after := by
  intro path declared leads apart
  cases path with
  | nil =>
      cases leads
      exact ⟨after, rfl, kept_of_relinked relinked⟩
  | cons index rest =>
      obtain ⟨child, isChild, leadsOn⟩ :=
        Declaration.descendant?_cons_eq_some_iff.mp leads
      obtain ⟨changed, isChanged, changes⟩ := each index child isChild
      simp only [Declaration.descendant?_cons_eq_some_iff]
      rcases changes with ⟨isTaken, childKept⟩ | keepsChild
      · -- The member is taken over, so what is found is the member itself.
        by_cases isMember : rest = []
        · subst isMember
          cases leadsOn
          exact ⟨changed, ⟨changed, isChanged, rfl⟩, childKept⟩
        · exact (apart [index] (List.cons_prefix_cons.mpr ⟨rfl, List.nil_prefix⟩)
            (fun same => isMember (List.cons.inj same).2.symm) isTaken).elim
      · obtain ⟨kept, keptLeads, isKept⟩ := keepsChild rest declared leadsOn
          fun front isFront isProper =>
            apart (index :: front) (List.cons_prefix_cons.mpr ⟨rfl, isFront⟩)
              fun same => isProper (List.cons.inj same).2
        exact ⟨kept, ⟨changed, isChanged, keptLeads⟩, isKept⟩

/-- What differs in links and groups at the top only keeps everything. -/
theorem of_relinked
    (relinked : Relinked before.info after.info)
    (children_eq : after.children = before.children) :
    KeepsUnless takenOver before after :=
  of_children relinked fun _ child isChild =>
    ⟨child, children_eq ▸ isChild, .inr (refl child)⟩

theorem of_updateInfo
    {change : Info → Info}
    {declaration : Declaration}
    (relinked : Relinked declaration.info (change declaration.info)) :
    KeepsUnless takenOver declaration (declaration.updateInfo change) :=
  of_relinked (by rwa [Declaration.info_updateInfo])
    (Declaration.children_updateInfo change declaration)

/-- One member may change and new ones follow; all others are kept. -/
theorem of_set
    {own changed : Declaration}
    {position : Nat}
    (relinked : Relinked before.info after.info)
    (found : before.children[position]? = some own)
    (children_eq : after.children = before.children.set position changed)
    (changes : (takenOver [position] ∧ Kept own changed) ∨
      KeepsUnless (fun below => takenOver (position :: below)) own changed) :
    KeepsUnless takenOver before after := by
  refine of_children relinked fun index child isChild => ?_
  rw [children_eq]
  by_cases same : position = index
  · subst same
    obtain rfl : own = child := Option.some.inj (found.symm.trans isChild)
    obtain ⟨inside, -⟩ := List.getElem?_eq_some_iff.mp found
    exact ⟨changed, List.getElem?_set_self inside, changes⟩
  · exact ⟨child, by rwa [List.getElem?_set_ne same], .inr (refl child)⟩

/-- A tree keeps what is apart from a descendant that is replaced. -/
theorem of_replaceAt
    {root found replacement : Declaration}
    {path : Path}
    (leads : root.descendant? path = some found)
    (keeps : KeepsUnless (fun below => takenOver (path ++ below)) found replacement) :
    KeepsUnless takenOver root (root.replaceAt replacement path) := by
  induction path generalizing root takenOver with
  | nil =>
      cases leads
      exact keeps
  | cons index rest inductionHypothesis =>
      obtain ⟨child, isChild, below⟩ :=
        Declaration.descendant?_cons_eq_some_iff.mp leads
      rw [Declaration.replaceAt_cons isChild]
      refine of_set ?_ isChild (Declaration.children_setChildren _ _)
        (.inr (inductionHypothesis below keeps))
      rw [Declaration.info_setChildren]
      exact .refl _

end KeepsUnless

namespace Injecting

variable
    {takenOver : Path → Prop}
    {ancestorName : String}
    {before after : Injecting}
    {own member : Declaration}
    {position : Nat}

/--
That the first member of a name in a class has no summary, while members are entered, so
that the ancestor's member of that name takes its place.
-/
structure TakesIn
    (before : Injecting)
    (member own : Declaration)
    (position : Nat) :
    Prop where
  running : before.failure = none
  first : memberPosition? member.name before.target.children = some position
  found : before.target.children[position]? = some own
  undocumented : own.info.hasSummary = false

/--
What becomes of a member that is taken over: the ancestor's member, with the origin noted
and under the number of the member that was there, and all that it owns under new numbers.
-/
structure TakesOver
    (ancestorName : String)
    (supply : IdSupply)
    (own member result : Declaration) :
    Prop where
  result_eq : result = fillingOf ancestorName supply own member
  id_eq : result.id = own.id
  name_eq : result.name = own.name
  alike : result.likeness = member.likeness
  inheritedFrom_eq : result.info.inheritedFrom = some (originOf ancestorName member)
  ownedIds_eq : result.ownedIds = List.range' supply.next member.ownedIds.length

theorem TakesIn.name_eq (takesIn : TakesIn before member own position) :
    own.name = member.name := by
  obtain ⟨named, namedFound, isNamed⟩ := exists_of_memberPosition? takesIn.first
  obtain rfl : own = named := Option.some.inj (takesIn.found.symm.trans namedFound)
  exact isNamed

theorem TakesIn.takesOver
    (takesIn : TakesIn before member own position)
    (ancestorName : String) :
    TakesOver ancestorName before.supply own member
      (fillingOf ancestorName before.supply own member) where
  result_eq := rfl
  id_eq := id_fillingOf _ _ _ _
  name_eq := (name_fillingOf _ _ _ _).trans takesIn.name_eq.symm
  alike := likeness_fillingOf _ _ _ _
  inheritedFrom_eq := inheritedFrom_stamp _ _
  ownedIds_eq := by
    have numbering :=
      Declaration.numbersNext_assignOwned (renamedTo own member) before.supply
    rw [fillingOf, stamp, Declaration.ownedIds_updateInfo, Declaration.renumberOwned,
      Declaration.ownedIds_renameGroups, numbering.new_eq, ownedIds_renamedTo]

/-- The ancestor's member stands where the member was. -/
theorem TakesIn.children_inject
    (takesIn : TakesIn before member own position)
    (ancestorName : String) :
    (inject ancestorName before member).target.children =
      before.target.children.set position
        (fillingOf ancestorName before.supply own member) := by
  cases enters_inject ancestorName before member with
  | halted failed => exact (failed takesIn.running).elim
  | stands _ _ _ first found documented =>
      obtain rfl := Option.some.inj (takesIn.first.symm.trans first)
      obtain rfl := Option.some.inj (takesIn.found.symm.trans found)
      rw [takesIn.undocumented] at documented
      cases documented
  | refused _ absent => cases absent.symm.trans takesIn.first
  | appends _ _ absent => cases absent.symm.trans takesIn.first
  | fills _ _ _ first found _ _ children_eq =>
      obtain rfl := Option.some.inj (takesIn.first.symm.trans first)
      obtain rfl := Option.some.inj (takesIn.found.symm.trans found)
      exact children_eq

/-- Entering a member keeps all that is apart from a member that is taken over. -/
theorem Enters.keepsUnless
    (enters : Enters ancestorName before member after)
    (taken : ∀ own position, TakesIn before member own position → takenOver [position]) :
    KeepsUnless takenOver before.target after.target := by
  cases enters with
  | halted _ same => exact same ▸ .refl _
  | stands _ _ _ _ _ _ same => exact same ▸ .refl _
  | refused _ _ _ same => exact same ▸ .refl _
  | appends _ _ _ _ regrouped children_eq =>
      refine .of_children regrouped.relinked fun index child isChild => ?_
      refine ⟨child, ?_, .inr (.refl child)⟩
      rw [children_eq, List.getElem?_append_left (List.getElem?_eq_some_iff.mp isChild).1]
      exact isChild
  | fills position own running first found undocumented regrouped children_eq =>
      have takesIn : TakesIn before member own position :=
        ⟨running, first, found, undocumented⟩
      refine .of_set regrouped.relinked found children_eq
        (.inl ⟨taken own position takesIn, ?_⟩)
      exact
        { id_eq := id_fillingOf _ _ _ _
          name_eq := (name_fillingOf _ _ _ _).trans takesIn.name_eq.symm
          comment_eq := fun documented => by
            rw [undocumented] at documented
            cases documented }

end Injecting

namespace Hierarchy

open Inheriting

/-! ## Apart from what is taken over -/

/-- That an ancestor's member takes the place of the member at a path, during a run. -/
def TakenOver
    (root : Declaration)
    (supply : IdSupply)
    (edges : List Edge)
    (path : Path) :
    Prop :=
  ∃ classPath ancestorName before member own position,
    EntersAt root supply edges classPath ancestorName before member ∧
      before.TakesIn member own position ∧ path = classPath ++ [position]

variable
    {root : Declaration}
    {supply : IdSupply}
    {edges earlier later : List Edge}
    {edge : Edge}
    {ancestorPath descendantPath : Path}
    {ancestor descendant : Declaration}

/-- While members are entered, the class keeps what is apart from those taken over. -/
theorem keepsUnless_foldl_inject
    (edges_eq : edges = earlier ++ edge :: later)
    (running : (flowAlong root supply earlier).failure = none)
    (meets : Meets root.childPaths (flowAlong root supply earlier).root edge
      ancestorPath descendantPath ancestor descendant)
    (entered left : List Declaration)
    (members_eq : ancestor.children = entered ++ left) :
    KeepsUnless (fun below => TakenOver root supply edges (descendantPath ++ below))
      descendant
      (entered.foldl (Injecting.inject ancestor.name)
        (opening (flowAlong root supply earlier) edge ancestor descendant)).target := by
  induction entered using List.reverseRecOn generalizing left with
  | nil =>
      exact .of_updateInfo
        ⟨descendant.info.groups, _, descendant.info.extendedBy, rfl⟩
  | append_singleton entered member inductionHypothesis =>
      rw [List.append_assoc, List.singleton_append] at members_eq
      rw [List.foldl_append, List.foldl_cons, List.foldl_nil]
      have entersAt := EntersAt.intro edges_eq running meets members_eq
      refine (inductionHypothesis (member :: left) members_eq).trans
        ((Injecting.enters_inject ancestor.name _ member).keepsUnless ?_)
      intro own position takesIn
      exact ⟨descendantPath, ancestor.name, _, member, own, position, entersAt, takesIn, rfl⟩

/-- An edge keeps what is apart from the members that are taken over along it. -/
theorem keepsUnless_propagate
    (edges_eq : edges = earlier ++ edge :: later) :
    KeepsUnless (TakenOver root supply edges) (flowAlong root supply earlier).root
      ((flowAlong root supply earlier).propagate root.childPaths edge).root := by
  have flows := flows_propagate root.childPaths (flowAlong root supply earlier) edge
  by_cases running : (flowAlong root supply earlier).failure = none
  · refine flows.root_induction (.refl _) ?_ ?_
    · intro ancestorPath descendantPath ancestor descendant meets
      have receives := keepsUnless_foldl_inject edges_eq running meets ancestor.children []
        (List.append_nil _).symm
      refine ⟨.of_replaceAt meets.descendant_found receives,
        .of_replaceAt meets.descendant_found (receives.trans ?_)⟩
      exact .of_relinked (Regrouped.of_sortMembers _).relinked
        (Declaration.children_sortMembers _)
    · intro ancestorPath descendantPath ancestor descendant _ middle found keeps leads
      refine keeps.trans (.of_replaceAt leads (.of_updateInfo ?_))
      exact ⟨found.info.groups, found.info.extendedTypes, _, rfl⟩
  · cases flows with
    | halted _ same =>
        rw [same]
        exact .refl _
    | skipped isRunning => exact (running isRunning).elim
    | fails _ _ _ _ _ isRunning => exact (running isRunning).elim
    | flows _ _ _ _ isRunning => exact (running isRunning).elim

/-- A run keeps what is apart from the members that are taken over during it. -/
theorem keepsUnless_flowAlong
    (earlier later : List Edge)
    (edges_eq : edges = earlier ++ later) :
    KeepsUnless (TakenOver root supply edges) root (flowAlong root supply earlier).root := by
  induction earlier using List.reverseRecOn generalizing later with
  | nil =>
      exact .refl root
  | append_singleton earlier edge inductionHypothesis =>
      rw [List.append_assoc, List.singleton_append] at edges_eq
      rw [flowAlong_concat]
      exact (inductionHypothesis (edge :: later) edges_eq).trans (keepsUnless_propagate edges_eq)

/-! ## What was owned before -/

/-- That nothing but new declarations is found below a path. -/
def OnlyNewBelow
    (floor : Nat)
    (path : Path)
    (declaration : Declaration) :
    Prop :=
  ∀ rest found, rest ≠ [] → declaration.descendant? (path ++ rest) = some found →
    floor ≤ found.id

namespace OnlyNewBelow

variable
    {floor : Nat}
    {path : Path}

/-- Old declarations do not come back. -/
theorem of_evolves
    {before after : Declaration}
    (onlyNew : OnlyNewBelow floor path before)
    (evolves : Evolves floor (fun _ => True) before after) :
    OnlyNewBelow floor path after := by
  intro rest changed isBelow leads
  by_contra isOld
  obtain ⟨found, foundLeads, sameId⟩ := exists_of_evolves evolves leads (Nat.lt_of_not_le isOld)
  exact isOld (sameId ▸ onlyNew rest found isBelow foundLeads)

theorem replaceAt
    {root found replacement : Declaration}
    {front : Path}
    (onlyNew : OnlyNewBelow floor path replacement)
    (leads : root.descendant? front = some found) :
    OnlyNewBelow floor (front ++ path) (root.replaceAt replacement front) := by
  intro rest changed isBelow changedLeads
  rw [List.append_assoc, Declaration.descendant?_append,
    Declaration.descendant?_replaceAt_self leads] at changedLeads
  exact onlyNew rest changed isBelow changedLeads

end OnlyNewBelow

/-- Only new declarations are below a member that is taken over. -/
theorem onlyNewBelow_inject
    {floor : Nat}
    {before : Injecting}
    {member own : Declaration}
    {position : Nat}
    (takesIn : before.TakesIn member own position)
    (ancestorName : String)
    (floorLe : floor ≤ before.supply.next) :
    OnlyNewBelow floor [position] (before.inject ancestorName member).target := by
  intro rest changed isBelow leads
  obtain ⟨inside, -⟩ := List.getElem?_eq_some_iff.mp takesIn.found
  obtain ⟨filled, isFilled, leadsOn⟩ := Declaration.descendant?_cons_eq_some_iff.mp leads
  rw [takesIn.children_inject, List.getElem?_set_self inside, Option.some.injEq] at isFilled
  subst isFilled
  have isOwned := Declaration.id_mem_ownedIds_of_descendant? leadsOn isBelow
  rw [(takesIn.takesOver ancestorName).ownedIds_eq, List.mem_range'_1] at isOwned
  exact Nat.le_trans floorLe isOwned.1

/-- What is new below a member of the class that an edge leads to is new in the tree. -/
theorem onlyNewBelow_propagate
    {floor : Nat}
    {paths : List (DeclId × Path)}
    {before : Inheriting}
    {below : Path}
    (running : before.failure = none)
    (meets : Meets paths before.root edge ancestorPath descendantPath ancestor descendant)
    (onlyNew : OnlyNewBelow floor below (received before edge ancestor descendant).target) :
    OnlyNewBelow floor (descendantPath ++ below) (before.propagate paths edge).root := by
  cases flows_propagate paths before edge with
  | halted failed => exact (failed running).elim
  | skipped _ apart => exact (apart _ _ _ _ meets).elim
  | fails _ _ _ _ _ _ other _ root_eq =>
      obtain ⟨rfl, rfl, rfl, rfl⟩ := meets.unique other
      rw [root_eq]
      exact onlyNew.replaceAt meets.descendant_found
  | flows _ _ _ _ _ other _ root_eq =>
      obtain ⟨rfl, rfl, rfl, rfl⟩ := meets.unique other
      rw [root_eq]
      have sorted := onlyNew.of_evolves (evolves_of_regrouped (.of_sortMembers _)
        (by rw [Declaration.children_sortMembers]; exact membersEvolve_refl 0 _))
      have replaced := sorted.replaceAt meets.descendant_found
      generalize before.root.replaceAt _ descendantPath = middle at replaced ⊢
      cases leads : middle.descendant? ancestorPath with
      | none =>
          rw [Declaration.updateAt_of_none leads]
          exact replaced
      | some found =>
          rw [Declaration.updateAt_eq_replaceAt leads]
          exact replaced.of_evolves (evolves_replaceAt leads (evolves_of_updateInfo
            ⟨found.info.groups, found.info.extendedTypes, _, rfl⟩))

/-- What is new below a path stays new while more edges are followed. -/
theorem onlyNewBelow_flowAlong_append
    {path : Path}
    (onlyNew : OnlyNewBelow supply.next path (flowAlong root supply earlier).root)
    (later : List Edge) :
    OnlyNewBelow supply.next path (flowAlong root supply (earlier ++ later)).root := by
  induction later using List.reverseRecOn with
  | nil =>
      rwa [List.append_nil]
  | append_singleton later last inductionHypothesis =>
      rw [← List.append_assoc, flowAlong_concat]
      have flows := flows_propagate root.childPaths
        (flowAlong root supply (earlier ++ later)) last
      exact inductionHypothesis.of_evolves (flows.evolves (fun _ _ => trivial)
        (covers_flowAlong root supply (earlier ++ later)).le)

/-- After a run only new declarations are below a member that was taken over. -/
theorem TakenOver.onlyNewBelow
    {path : Path}
    (takenOver : TakenOver root supply edges path) :
    OnlyNewBelow supply.next path (flowAlong root supply edges).root := by
  obtain ⟨_, _, before, member, own, position, entersAt, takesIn, rfl⟩ := takenOver
  cases entersAt with
  | @intro earlier later edge _ descendantPath ancestor descendant _ entered left
      edges_eq running meets members_eq =>
      have floorLe : supply.next ≤ _ := Nat.le_trans
        (covers_flowAlong root supply earlier).le
        (Injecting.covers_foldl_inject ancestor.name entered
          (opening (flowAlong root supply earlier) edge ancestor descendant)).le
      have stillLe := Nat.le_trans floorLe
        (Injecting.enters_inject ancestor.name _ member).covers_target.le
      have entered_eq :
          received (flowAlong root supply earlier) edge ancestor descendant =
            left.foldl (Injecting.inject ancestor.name)
              (Injecting.inject ancestor.name (entered.foldl (Injecting.inject ancestor.name)
                (opening (flowAlong root supply earlier) edge ancestor descendant)) member) := by
        rw [received, members_eq, List.foldl_append, List.foldl_cons]
      have inClass := (onlyNewBelow_inject takesIn ancestor.name floorLe).of_evolves
        (Injecting.evolves_foldl_inject ancestor.name left trivial stillLe)
      rw [← entered_eq] at inClass
      have inTree := onlyNewBelow_propagate running meets inClass
      rw [← flowAlong_concat] at inTree
      have shape : edges = earlier ++ [edge] ++ later := by
        rw [edges_eq, List.append_assoc, List.singleton_append]
      rw [shape]
      exact onlyNewBelow_flowAlong_append inTree later

/-- What nothing around is taken over stays where it is, with all that stands around it. -/
theorem staysAt_of_not_takenOver
    {declared : Declaration}
    {path : Path}
    (leads : root.descendant? path = some declared)
    (apart : ∀ front, front <+: path → front ≠ path →
      ¬ TakenOver root supply edges front)
    {front : Path}
    (isFront : front <+: path) :
    StaysAt root (flowAlong root supply edges).root front := by
  obtain ⟨found, foundLeads⟩ := Declaration.exists_descendant?_of_prefix leads isFront
  have apartFront (outer : Path) (isOuter : outer <+: front) (isProper : outer ≠ front) :
      ¬ TakenOver root supply edges outer := by
    refine apart outer (isOuter.trans isFront) fun isWhole => isProper ?_
    exact isOuter.eq_of_length_le (isWhole ▸ isFront.length_le)
  obtain ⟨kept, keptLeads, isKept⟩ :=
    keepsUnless_flowAlong edges [] (List.append_nil _).symm front found foundLeads apartFront
  exact ⟨found, kept, foundLeads, keptLeads, isKept⟩

/-- What something around is taken over is gone. -/
theorem not_reaches_of_takenOver
    {declared : Declaration}
    {path front : Path}
    (leads : root.descendant? path = some declared)
    (isFront : front <+: path)
    (isProper : front ≠ path)
    (takenOver : TakenOver root supply edges front)
    (numbered : NumberedFrom supply root) :
    ¬ (flowAlong root supply edges).root.Reaches declared.id := by
  intro reaches
  obtain ⟨rest, rfl⟩ := isFront
  obtain ⟨found, foundLeads, sameId⟩ := descendant?_of_reaches numbered
    (evolves_flowAlong (List.Subset.refl edges) root supply) leads reaches
  have isNew : supply.next ≤ found.id := takenOver.onlyNewBelow rest found
    (fun isEmpty => isProper (by rw [isEmpty, List.append_nil])) foundLeads
  have isOld : declared.id < supply.next :=
    numbered.below _ (Declaration.ids_subset_of_descendant? leads declared.id_mem_ids)
  exact Nat.not_lt.mpr (sameId ▸ isNew) isOld

/--
A declaration and all that stands around it stay where they are, under their numbers and
names and with their documentation, unless something around it is taken over.  If
something is, the declaration is gone.  What is taken over is an undocumented member, and
it becomes the ancestor's member under its own number, all of whose owned declarations are
new copies.
-/
theorem survives_unless_filled_around
    {declared : Declaration}
    {path : Path}
    (leads : root.descendant? path = some declared)
    (hierarchy : Hierarchy)
    (supply : IdSupply) :
    let after := (hierarchy.resolve root supply).root
    let takenOver := TakenOver root supply (schedule hierarchy.resolvedEdges)
    ((∀ front, front <+: path → front ≠ path → ¬ takenOver front) →
        ∀ front, front <+: path → StaysAt root after front) ∧
      (∀ front, front <+: path → front ≠ path → takenOver front →
        NumberedFrom supply root → ¬ after.Reaches declared.id) ∧
      ∀ classPath ancestorName before member own position,
        EntersAt root supply (schedule hierarchy.resolvedEdges) classPath ancestorName before
            member →
          Injecting.TakesIn before member own position →
            own.info.hasSummary = false ∧
              ∃ result, Injecting.TakesOver ancestorName before.supply own member result ∧
                (before.inject ancestorName member).target.children =
                  before.target.children.set position result := by
  refine ⟨?_, ?_, ?_⟩
  · intro apart front isFront
    exact staysAt_of_not_takenOver leads apart isFront
  · intro front isFront isProper takenOver numbered
    exact not_reaches_of_takenOver leads isFront isProper takenOver numbered
  · intro classPath ancestorName before member own position _ takesIn
    exact ⟨takesIn.undocumented, _, takesIn.takesOver ancestorName,
      takesIn.children_inject ancestorName⟩

/-- A documented method of an undocumented class nested in a derived class. -/
def nestedMethod : Declaration :=
  .ofInfo
    { id := 5
      name := "run"
      kind := .method
      comment := some (.ofSummary "Runs") }

/-- A base class and a derived class, each with a nested class of one name. -/
def nestedClasses : Declaration :=
  .node { id := 0, name := "project", kind := .project }
    [ .node { id := 1, name := "Base", kind := .classDecl }
        [ .ofInfo
            { id := 2
              name := "Inner"
              kind := .classDecl
              comment := some (.ofSummary "Inner of base") } ] [] [],
      .node { id := 3, name := "Derived", kind := .classDecl }
        [ .node { id := 4, name := "Inner", kind := .classDecl }
            [nestedMethod] [] [] ] [] [] ]
    [] []

/-- The derived class extends the base class. -/
def derivedExtendsBase : Hierarchy where
  classes := [("Base", 1)]
  edges := [⟨"Base", 3⟩]

/--
The member of the base takes the place of the nested class, so the method in it is gone;
the nested class of the base stays, since nothing around it is taken over.
-/
theorem survives_unless_filled_around_of_nested :
    let after := (derivedExtendsBase.resolve nestedClasses ⟨6⟩).root
    let takenOver :=
      TakenOver nestedClasses ⟨6⟩ (schedule derivedExtendsBase.resolvedEdges)
    NumberedFrom ⟨6⟩ nestedClasses ∧
      takenOver [1, 0] ∧ ¬ after.Reaches nestedMethod.id ∧
      (∀ front, front <+: [0, 0] → front ≠ [0, 0] → ¬ takenOver front) ∧
      ∀ front, front <+: [0, 0] → StaysAt nestedClasses after front := by
  intro after takenOver
  have numbered : NumberedFrom ⟨6⟩ nestedClasses := ⟨by decide, by decide⟩
  have scheduled : schedule derivedExtendsBase.resolvedEdges = [(1, 3)] := by
    decide +kernel
  have replaced : takenOver [1, 0] := by
    have edges_eq : schedule derivedExtendsBase.resolvedEdges = [] ++ (1, 3) :: [] := scheduled
    have meets : Meets nestedClasses.childPaths (flowAlong nestedClasses ⟨6⟩ []).root (1, 3)
        [0] [1] _ _ :=
      ⟨by decide +kernel, by decide +kernel, rfl, rfl⟩
    have entersAt := EntersAt.intro edges_eq rfl meets (List.nil_append _).symm
    exact ⟨[1], "Base", _, _, _, 0, entersAt, ⟨rfl, by decide, rfl, by decide⟩, rfl⟩
  have apart (front : Path) (isFront : front <+: [0, 0]) (_ : front ≠ [0, 0]) :
      ¬ takenOver front := by
    rintro ⟨classPath, _, _, _, _, position, entersAt, -, rfl⟩
    cases entersAt with
    | @intro earlier later edge _ _ _ _ _ _ _ edges_eq _ meets =>
        have isScheduled : edge ∈ schedule derivedExtendsBase.resolvedEdges :=
          edges_eq ▸ List.mem_append_right earlier List.mem_cons_self
        rw [scheduled, List.mem_singleton] at isScheduled
        subst isScheduled
        have path_eq : nestedClasses.childPaths.lookup 3 = some [1] := by decide +kernel
        obtain rfl := Option.some.inj (path_eq.symm.trans meets.descendant_path)
        cases (List.cons_prefix_cons.mp isFront).1
  have leads : nestedClasses.descendant? [1, 0, 0] = some nestedMethod := rfl
  have staysLeads : nestedClasses.descendant? [0, 0] =
      some (.ofInfo
        { id := 2
          name := "Inner"
          kind := .classDecl
          comment := some (.ofSummary "Inner of base") }) := rfl
  obtain ⟨-, lost, -⟩ := survives_unless_filled_around leads derivedExtendsBase ⟨6⟩
  obtain ⟨stays, -, -⟩ := survives_unless_filled_around staysLeads derivedExtendsBase ⟨6⟩
  exact ⟨numbered, replaced, lost [1, 0] (by decide) (by decide) replaced numbered, apart,
    stays apart⟩

/-- A documented declaration can be lost although all numbers are distinct. -/
theorem documented_method_lost :
    nestedClasses.ids.Nodup ∧
      (derivedExtendsBase.resolve nestedClasses ⟨6⟩).failure = none ∧
      nestedClasses.descendant? [1, 0, 0] = some nestedMethod ∧
      nestedMethod.info.hasSummary = true ∧
      ¬ (derivedExtendsBase.resolve nestedClasses ⟨6⟩).root.Reaches
          nestedMethod.id := by
  refine ⟨by decide, by decide +kernel, rfl, by decide +kernel, ?_⟩
  rintro ⟨path, found, leads, isMethod⟩
  have member : nestedMethod.id ∈
      (derivedExtendsBase.resolve nestedClasses ⟨6⟩).root.ids :=
    isMethod ▸ Declaration.ids_subset_of_descendant? leads found.id_mem_ids
  have absent : nestedMethod.id ∉
      (derivedExtendsBase.resolve nestedClasses ⟨6⟩).root.ids := by
    decide +kernel
  exact absent member

end Hierarchy

end ApiTree.Decl
