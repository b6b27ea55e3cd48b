import ApiTree.Proofs.Convert.Grouping
import ApiTree.Proofs.Convert.LinkTargets
import ApiTree.Proofs.Hierarchy.Entries
import ApiTree.Proofs.Hierarchy.Nesting

namespace ApiTree.Convert

open ApiTree.Decl
open ApiTree.Dump (ApiObject Argument Docstring Facts)
open ApiTree.Interp (TypeParser)
open ApiTree.Resolve (Answers Resolved)

/-!
# Groups of a converted project

The walk lists each member in its group under its own number.  Inherited members are
listed under the numbers of their origins.  So at the end the groups of every
declaration below the project lead to its members, each once and in the group it
belongs to, as long as members could be received along every edge and references to
origins were not pointed elsewhere.
-/

/-- That every title is as good as another. -/
def AnyTitle (_ : Info) (_ : String) : Prop :=
  True

/-- That a title is the one of the group that a declaration belongs to. -/
def OwnTitle (info : Info) (title : String) : Prop :=
  info.classify.map (·.title) = some title

theorem fitting_anyTitle : Fitting AnyTitle where
  portable _ _ _ _ _ _ := trivial
  relinkable _ _ _ _ _ := trivial
  classified _ _ _ := trivial

/-- Numbers, groups and links do not decide where a declaration belongs. -/
theorem fitting_ownTitle : Fitting OwnTitle where
  portable _ _ _ _ _ fits := fits
  relinkable := by
    rintro title before after ⟨groups, extendedTypes, extendedBy, rfl⟩ fits
    exact fits
  classified info group isGroup := by
    rw [OwnTitle, isGroup]
    rfl

variable
    {fits : Info → String → Prop}
    {options : Options}
    {parser : TypeParser}
    {modules : List ApiObject}
    {conversion : Conversion}
    {answers : Answers}

/-! ## Assembled declarations -/

theorem enterable_lists (fitting : Fitting fits) : Enterable (Lists fits) where
  steady := steady_lists fitting
  sortable := sortable_lists fits
  empty := ⟨[], .refl _, .nil⟩
  entered _ _ _ group isGroup _ lists :=
    lists.enter (.inl rfl) (fitting.classified _ group isGroup)

/-- Nothing is inherited before members flow. -/
theorem own_assemble
    (options : Options)
    (modules : List ApiObject) :
    (assemble options modules).1.Everywhere fun info =>
      info.inheritedFrom = none :=
  fun info isInfo => ((enrolls_assemble options modules).1 info isInfo).own

/-- The members of an assembled declaration are not inherited. -/
theorem own_member_assemble
    {node child : Declaration}
    (isNode : node ∈ (assemble options modules).1.owned)
    (isChild : child ∈ node.children) :
    child.info.inheritedFrom = none := by
  refine own_assemble options modules child.info ?_
  exact Declaration.ownedInfos_subset_infos _
    (Declaration.info_mem_ownedInfos_of_child
      (Declaration.mem_nodes_of_owned isNode) isChild)

theorem presentsBelow_presented_assemble
    (fitting : Fitting fits)
    (options : Options)
    (modules : List ApiObject) :
    (assemble options modules).1.PresentsBelow (Presented fits) := by
  intro node isNode
  refine ⟨presentsBelow_assemble (enterable_lists fitting) options modules node
    isNode, ?_⟩
  refine List.forall_mem_map.mpr fun child isChild => ?_
  intro other _ comesFrom
  rw [Info.origin?, own_member_assemble isNode isChild] at comesFrom
  cases comesFrom

theorem presentsBelow_namesakes_assemble
    (options : Options)
    (modules : List ApiObject) :
    (assemble options modules).1.PresentsBelow
      (OfMembers (Namesakes (· = none))) := by
  intro node isNode
  refine List.pairwise_map.mpr ?_
  refine List.pairwise_of_forall_mem_list ?_
  intro one _ other isOther _
  obtain ⟨child, isChild, rfl⟩ := List.mem_map.mp isOther
  exact own_member_assemble isNode isChild

/-! ## Inherited members -/

/-- That along each edge of a project members can be received. -/
def MembersReceivable
    (fits : Info → String → Prop)
    (options : Options)
    (modules : List ApiObject) :
    Prop :=
  Hierarchy.ReceivableAlong fits (assemble options modules).1
    (assemble options modules).2.supply
    (Hierarchy.schedule (assemble options modules).2.hierarchy.resolvedEdges)

theorem innerEnds_schedule
    (options : Options)
    (modules : List ApiObject) :
    ∀ edge ∈ Hierarchy.schedule
        (assemble options modules).2.hierarchy.resolvedEdges,
      Inheriting.InnerEnds (assemble options modules).1.childPaths edge :=
  fun edge isScheduled => innerEnds_assemble options modules edge
    (Hierarchy.schedule_subset _ isScheduled)

/-- In the inherited tree groups lead to all members. -/
theorem listsMembers_inherited
    (fitting : Fitting fits)
    (receivable : MembersReceivable fits options modules) :
    ∀ node ∈ (inherited options modules).root.owned, node.ListsMembers fits := by
  have numbered := numberedFrom_assemble options modules
  have own := own_assemble options modules
  have inner := innerEnds_schedule options modules
  have namesakes := presentsBelow_namesakes_assemble options modules
  have presented := Hierarchy.presentsBelow_presented fitting numbered own
    namesakes inner receivable
    (presentsBelow_presented_assemble fitting options modules)
  have stillNamesakes := Hierarchy.presentsBelow_flowAlong
    (heritable_namesakes (· = none)) numbered inner namesakes
  have attested := Hierarchy.attested_flowAlong (.of_own numbered own)
    (Hierarchy.schedule (assemble options modules).2.hierarchy.resolvedEdges)
  intro node isNode
  exact attested.listsMembers (Declaration.mem_nodes_of_owned isNode)
    (presented node isNode) (stillNamesakes node isNode)

/-! ## Finished declarations -/

/-- That no declaration bears the name under which an origin is referred to. -/
def OriginsKept
    (options : Options)
    (modules : List ApiObject) :
    Prop :=
  ∀ info ∈ (inherited options modules).root.infos, ∀ link,
    info.inheritedFrom = some link → declaredAs options modules link.name = none

/-- Finishing changes the type and the links of a node only. -/
theorem exists_finishInfo_eq
    (resolved : Resolved)
    (lookup : String → Option DeclId)
    (info : Info) :
    ∃ type extendedTypes extendedBy,
      finishInfo resolved lookup info =
        { info with
          type := type
          extendedTypes := extendedTypes
          extendedBy := extendedBy
          inheritedFrom := info.inheritedFrom.map (Info.retarget.point lookup) } := by
  obtain ⟨type, appliedEq⟩ := exists_applyInfo_eq resolved info
  rw [finishInfo, appliedEq]
  exact ⟨_, _, _, rfl⟩

theorem groups_finishInfo
    (resolved : Resolved)
    (lookup : String → Option DeclId)
    (info : Info) :
    (finishInfo resolved lookup info).groups = info.groups := by
  obtain ⟨_, _, _, finishEq⟩ := exists_finishInfo_eq resolved lookup info
  rw [finishEq]

/-- A finished node belongs where it belonged. -/
theorem classify_finishInfo
    (resolved : Resolved)
    (lookup : String → Option DeclId)
    (info : Info) :
    (finishInfo resolved lookup info).classify = info.classify := by
  obtain ⟨_, _, _, finishEq⟩ := exists_finishInfo_eq resolved lookup info
  rw [finishEq]
  rfl

/-- What stands for a node stands for the finished node if its origin is kept. -/
theorem answers_finishInfo_iff
    {resolved : Resolved}
    {lookup : String → Option DeclId}
    {info : Info}
    (kept : ∀ link, info.inheritedFrom = some link → lookup link.name = none)
    {number : DeclId} :
    (finishInfo resolved lookup info).Answers number ↔ info.Answers number := by
  obtain ⟨_, _, _, finishEq⟩ := exists_finishInfo_eq resolved lookup info
  rw [finishEq]
  cases inherited : info.inheritedFrom with
  | none => simp [Info.Answers, inherited]
  | some link =>
      simp [Info.Answers, inherited, Info.retarget.point, kept link inherited]

theorem owned_finished
    (finished : Finished options parser modules conversion answers) :
    conversion.project.root.owned =
      (inherited options modules).root.owned.map
        (Declaration.mapInfo
          (finishInfo (resolvedTypes options modules answers)
            (declaredAs options modules))) := by
  have sameOwned (declaration : Declaration) :
      declaration.sortMembers.owned = declaration.owned := by
    cases declaration
    rfl
  have nodes := Declaration.nodes_mapInfo
    (finishInfo (resolvedTypes options modules answers)
      (declaredAs options modules)) (inherited options modules).root
  rw [Declaration.nodes_eq_cons_owned, Declaration.nodes_eq_cons_owned,
    List.map_cons] at nodes
  rw [finished.root_eq, sameOwned]
  exact (List.cons.inj nodes).2

/-- In a converted project groups lead to all members. -/
theorem listsMembers_converted
    (fitting : Fitting fits)
    (finishes : ∀ resolved lookup info title, fits info title →
      fits (finishInfo resolved lookup info) title)
    (finished : Finished options parser modules conversion answers)
    (receivable : MembersReceivable fits options modules)
    (kept : OriginsKept options modules) :
    ∀ node ∈ conversion.project.root.owned, node.ListsMembers fits := by
  rw [owned_finished finished]
  refine List.forall_mem_map.mpr fun node isNode => ?_
  refine (listsMembers_inherited fitting receivable node isNode).mapInfo
    (groups_finishInfo _ _ _) ?_ (finishes _ _)
  intro child isChild number
  refine answers_finishInfo_iff (kept child.info ?_)
  exact Declaration.ownedInfos_subset_infos _
    (Declaration.info_mem_ownedInfos_of_child
      (Declaration.mem_nodes_of_owned isNode) isChild)

/-! ## Projects without nested classes -/

/--
That no class that extends or is extended stands inside another one, that members of
such a class have different names, and that no name has a dot.
-/
structure SimplyNamed
    (options : Options)
    (modules : List ApiObject) :
    Prop where
  unnested : Hierarchy.Unnested (assemble options modules).1
    (assemble options modules).2.hierarchy.resolvedEdges
  different : Hierarchy.EndsHold (assemble options modules).1
    (assemble options modules).2.hierarchy.resolvedEdges DifferentNames
    (assemble options modules).1
  dotless : ∀ name number,
    (assemble options modules).1.NamesBelow name number → '.' ∉ name.toList

/-- That members of one name in its classes belong together if one is undocumented. -/
def GroupedByName
    (options : Options)
    (modules : List ApiObject) :
    Prop :=
  Hierarchy.FitsByName OwnTitle (assemble options modules).1
    (assemble options modules).2.hierarchy.resolvedEdges

namespace SimplyNamed

/-- In such a project members can be received along every edge. -/
theorem membersReceivable
    (simple : SimplyNamed options modules)
    (fitting : Fitting fits)
    (byName : Hierarchy.FitsByName fits (assemble options modules).1
      (assemble options modules).2.hierarchy.resolvedEdges) :
    MembersReceivable fits options modules :=
  Hierarchy.receivableAlong_of_unnested fitting simple.unnested
    (Hierarchy.schedule_subset _) (numberedFrom_assemble options modules)
    (own_assemble options modules) simple.different byName

/-- An origin is referred to by the names of its owner and itself, with a dot. -/
theorem originsKept (simple : SimplyNamed options modules) :
    OriginsKept options modules := by
  intro info isInfo link isLink
  have attested := Hierarchy.attested_flowAlong
    (.of_own (numberedFrom_assemble options modules)
      (own_assemble options modules))
    (Hierarchy.schedule (assemble options modules).2.hierarchy.resolvedEdges)
  obtain ⟨target, isTarget⟩ := attested.targeted info isInfo link isLink
  have stands := (linksStand_inherited options modules info isInfo).inherited
    link isLink
  obtain ⟨owner, member, nameEq, -⟩ := stands target isTarget
  cases declared : declaredAs options modules link.name with
  | none => rfl
  | some number =>
      have newest := newestDeclared?_eq_some_iff.mp declared
      refine (simple.dotless link.name number newest.declared ?_).elim
      simp [nameEq]

end SimplyNamed

/-! ## Groups of a converted project -/

/--
In a converted project the entries of the groups of every declaration below the
project lead to its members, each once, if members could be received along every
edge and references to origins were kept.  Both is so in a project where names are
simple.
-/
theorem groups_cover_members
    (converted : convertModules options parser modules = .ok conversion) :
    (MembersReceivable AnyTitle options modules → OriginsKept options modules →
      ∀ node ∈ conversion.project.root.owned, node.GroupsCoverMembers) ∧
      (SimplyNamed options modules →
        MembersReceivable AnyTitle options modules ∧
          OriginsKept options modules) := by
  obtain ⟨answers, finished⟩ := exists_finished converted
  constructor
  · intro receivable kept node isNode
    exact (listsMembers_converted fitting_anyTitle (fun _ _ _ _ fits => fits)
      finished receivable kept node isNode).covers
  · intro simple
    exact ⟨simple.membersReceivable fitting_anyTitle
      (fun _ _ _ _ _ _ _ fits => fits), simple.originsKept⟩

/-- A class with a nested class, a class that extends it, and one that extends that. -/
def layeredModules : List ApiObject :=
  [ .mk { name := "Base", tag := "class" }
      [ documentedObject "run" "function" "Runs" [],
        documentedObject "Inner" "class" "Inner of base"
          [documentedObject "go" "function" "Goes" []] ],
    .mk { name := "Middle", tag := "class", bases := ["Base"] } [],
    .mk { name := "Derived", tag := "class", bases := ["Middle"] }
      [.mk { name := "run", tag := "function" } []] ]

theorem simplyNamed_layeredModules : SimplyNamed {} layeredModules where
  unnested := by decide +kernel
  different := by decide +kernel
  dotless := by
    have dotless : ∀ info ∈ (assemble {} layeredModules).1.infos,
        '.' ∉ info.name.toList := by
      decide +kernel
    intro name number names
    obtain ⟨info, isInfo, -, rfl⟩ :=
      bears_of_names (Declaration.names_iff.mpr (.inr names))
    exact dotless info isInfo

/-- The copies of copies in this project are found where they are listed. -/
theorem groups_cover_members_of_layers :
    ∃ conversion,
      convertModules {} TypeParser.silent layeredModules = .ok conversion ∧
        MembersReceivable AnyTitle {} layeredModules ∧
        OriginsKept {} layeredModules ∧
        ∀ node ∈ conversion.project.root.owned, node.GroupsCoverMembers := by
  obtain ⟨conversion, converted⟩ :=
    exists_silent_conversion (failure_inherited {} layeredModules)
  obtain ⟨covers, simple⟩ := groups_cover_members converted
  obtain ⟨receivable, kept⟩ := simple simplyNamed_layeredModules
  exact ⟨conversion, converted, receivable, kept, covers receivable kept⟩

/-- A class that extends the class around it, and is copied with what it inherits. -/
def copiedModules : List ApiObject :=
  [ .mk { name := "pkg", tag := "module" }
      [ .mk { name := "Outer", tag := "class" }
          [.mk { name := "Inner", tag := "class", bases := ["Outer"] } []],
        .mk { name := "User", tag := "class", bases := ["Outer"] } [] ] ]

/-- The copied class lists a copy of the origin, but not what it inherited. -/
theorem copied_entry_leads_nowhere :
    ∃ conversion,
      convertModules {} TypeParser.silent copiedModules = .ok conversion ∧
        ∃ node ∈ conversion.project.root.owned, ¬ node.GroupsCoverMembers := by
  obtain ⟨conversion, converted⟩ :=
    exists_silent_conversion (failure_inherited {} copiedModules)
  obtain ⟨answers, finished⟩ := exists_finished converted
  cases finished.answered
  refine ⟨conversion, converted, ?_⟩
  have leadsNowhere :
      (conversion.project.root.owned.any fun node =>
        node.entries.any fun entry => (node.findEntry? entry).isNone) = true := by
    rw [finished.root_eq]
    decide +kernel
  obtain ⟨node, isNode, isNowhere⟩ := List.any_eq_true.mp leadsNowhere
  obtain ⟨entry, isEntry, notFound⟩ := List.any_eq_true.mp isNowhere
  refine ⟨node, isNode, fun covers => ?_⟩
  have found := covers.isSome_findEntry? isEntry
  rw [Option.isNone_iff_eq_none.mp notFound] at found
  cases found

/--
In a converted project each member of a declaration below the project is listed in
the group that it belongs to, if what filled in members belonged where they were
listed too.  That is so if members of one name belong together.
-/
theorem members_listed_where_classified
    (converted : convertModules options parser modules = .ok conversion) :
    (MembersReceivable OwnTitle options modules → OriginsKept options modules →
      ∀ node ∈ conversion.project.root.owned, node.GroupsFitMembers) ∧
      (SimplyNamed options modules → GroupedByName options modules →
        MembersReceivable OwnTitle options modules ∧
          OriginsKept options modules) := by
  obtain ⟨answers, finished⟩ := exists_finished converted
  constructor
  · intro receivable kept node isNode child isChild
    refine (listsMembers_converted fitting_ownTitle ?_ finished receivable kept
      node isNode).exists_group isChild
    intro resolved lookup info title fits
    rw [OwnTitle, classify_finishInfo]
    exact fits
  · intro simple byName
    exact ⟨simple.membersReceivable fitting_ownTitle byName, simple.originsKept⟩

/-- In its classes members of one name belong together. -/
theorem groupedByName_layeredModules : GroupedByName {} layeredModules := by
  have together : Hierarchy.EndsHold (assemble {} layeredModules).1
      (assemble {} layeredModules).2.hierarchy.resolvedEdges
      (fun members => ∀ member ∈ members,
        member.info.classify.map (·.title) =
          if member.name = "run" then some "Methods" else some "Classes")
      (assemble {} layeredModules).1 := by
    decide +kernel
  rintro own other ⟨ownPath, owner, ownEnds, ownLeads, isOwn⟩
    ⟨path, found, ends, leads, isOther⟩ sameName - title fitsOwn
  rw [OwnTitle, together ownPath owner ownEnds ownLeads own isOwn] at fitsOwn
  rw [OwnTitle, together path found ends leads other isOther, ← sameName]
  exact fitsOwn

/-- The methods and classes of this project are listed as such. -/
theorem members_listed_where_classified_of_layers :
    ∃ conversion,
      convertModules {} TypeParser.silent layeredModules = .ok conversion ∧
        MembersReceivable OwnTitle {} layeredModules ∧
        OriginsKept {} layeredModules ∧
        ∀ node ∈ conversion.project.root.owned, node.GroupsFitMembers := by
  obtain ⟨conversion, converted⟩ :=
    exists_silent_conversion (failure_inherited {} layeredModules)
  obtain ⟨listed, simple⟩ := members_listed_where_classified converted
  obtain ⟨receivable, kept⟩ :=
    simple simplyNamed_layeredModules groupedByName_layeredModules
  exact ⟨conversion, converted, receivable, kept, listed receivable kept⟩

/-- A class whose attribute hides a method of the base class. -/
def shadowingModules : List ApiObject :=
  [ .mk { name := "pkg", tag := "module" }
      [ .mk { name := "Base", tag := "class" }
          [documentedObject "run" "function" "Runs" []],
        .mk { name := "Derived", tag := "class", bases := ["Base"] }
          [.mk { name := "run", tag := "data" } []] ] ]

/-- The method that fills in the attribute is listed where the attribute was. -/
theorem method_listed_as_property :
    ∃ conversion,
      convertModules {} TypeParser.silent shadowingModules = .ok conversion ∧
        ∃ node ∈ conversion.project.root.owned, ¬ node.GroupsFitMembers := by
  obtain ⟨conversion, converted⟩ :=
    exists_silent_conversion (failure_inherited {} shadowingModules)
  obtain ⟨answers, finished⟩ := exists_finished converted
  cases finished.answered
  refine ⟨conversion, converted, ?_⟩
  have listedElsewhere :
      (conversion.project.root.owned.any fun node =>
        node.children.any fun child =>
          node.info.groups.all fun group =>
            child.info.classify.map (·.title) ≠ some group.title) = true := by
    rw [finished.root_eq]
    decide +kernel
  obtain ⟨node, isNode, isElsewhere⟩ := List.any_eq_true.mp listedElsewhere
  obtain ⟨child, isChild, unlisted⟩ := List.any_eq_true.mp isElsewhere
  refine ⟨node, isNode, fun fit => ?_⟩
  obtain ⟨group, isGroup, -, sameTitle⟩ := fit child isChild
  exact of_decide_eq_true (List.all_eq_true.mp unlisted group isGroup) sameTitle

end ApiTree.Convert
