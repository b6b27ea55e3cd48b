import ApiTree.Proofs.Convert.Coverage
import ApiTree.Proofs.Hierarchy.Top

namespace ApiTree.Convert

open ApiTree.Decl
open ApiTree.Dump (ApiObject Docstring Facts)
open ApiTree.Interp (TypeParser)

/-!
# Groups of the project

Below the project every member is listed in the group of its title.  In the project
itself groups are used only if something anywhere in the dump has the name of the
decorator that names groups, be it hidden, an alias or an alternative signature.  If
nothing has, no member has a group of its own either, and the project has no groups.
If something has, they list every member once, by its own number, and nothing else.
Inheriting changes neither, as members flow below the project only.
-/

/-! ## What a dump mentions -/

mutual

/-- The facts of an object and of everything inside it. -/
def factsWithin : ApiObject → List Facts
  | .mk facts members => facts :: factsAmong members

/-- The facts of several objects and of everything inside them. -/
def factsAmong : List ApiObject → List Facts
  | [] => []
  | first :: rest => factsWithin first ++ factsAmong rest

end

/-- That an object anywhere in a dump, or a decorator of one, has a name. -/
def Mentioned
    (name : String)
    (objects : List ApiObject) :
    Prop :=
  ∃ facts ∈ factsAmong objects,
    facts.name = name ∨ ∃ decorator ∈ facts.decorators, decorator.name = name

instance (name : String) (objects : List ApiObject) :
    Decidable (Mentioned name objects) :=
  inferInstanceAs (Decidable (∃ _ ∈ _, _))

theorem mentioned_cons_iff
    {name : String}
    {first : ApiObject}
    {rest : List ApiObject} :
    Mentioned name (first :: rest) ↔ Mentioned name [first] ∨ Mentioned name rest := by
  simp [Mentioned, factsAmong, or_and_right, exists_or]

theorem mentioned_mk_iff
    {name : String}
    {facts : Facts}
    {members : List ApiObject} :
    Mentioned name [.mk facts members] ↔
      (facts.name = name ∨ ∃ decorator ∈ facts.decorators, decorator.name = name) ∨
        Mentioned name members := by
  simp [Mentioned, factsAmong, factsWithin]

/-- What each of several objects mentions is what is mentioned by any. -/
theorem anyMentions_iff_of_each
    {name : String}
    {objects : List ApiObject}
    (each : ∀ object ∈ objects,
      object.mentions name = true ↔ Mentioned name [object]) :
    ApiObject.anyMentions name objects = true ↔ Mentioned name objects := by
  induction objects with
  | nil =>
      simp [ApiObject.anyMentions, Mentioned, factsAmong]
  | cons first rest inductionHypothesis =>
      obtain ⟨firstHolds, restHold⟩ := List.forall_mem_cons.mp each
      rw [ApiObject.anyMentions, Bool.or_eq_true, firstHolds,
        inductionHypothesis restHold, ← mentioned_cons_iff]

theorem mentions_iff
    {name : String}
    (object : ApiObject) :
    object.mentions name = true ↔ Mentioned name [object] := by
  induction object using objectInduction with
  | mk facts members membersHold =>
      rw [mentioned_mk_iff, ← anyMentions_iff_of_each membersHold]
      simp [ApiObject.mentions, Facts.hasDecorator]

/-- The scan of a dump finds a name exactly if the dump mentions it. -/
theorem anyMentions_iff
    {name : String}
    {objects : List ApiObject} :
    ApiObject.anyMentions name objects = true ↔ Mentioned name objects :=
  anyMentions_iff_of_each fun object _ => mentions_iff object

/-! ## No groups without a mention -/

/-- The group of a declaration comes from a rule if no decorator names groups. -/
theorem source_of_classify
    {info : Info}
    {group : Assignment}
    (grouped : info.classify = some group)
    (unnamed : ∀ decorator ∈ info.decorators, decorator.name ≠ groupDecorator) :
    group.source = .rule := by
  have noLiteral : literalOf? groupDecorator info.decorators = none := by
    rw [literalOf?, List.find?_eq_none.mpr (by simpa using unnamed)]
    rfl
  rw [Info.classify, noLiteral] at grouped
  obtain ⟨rule, -, rfl⟩ := Option.map_eq_some_iff.mp grouped
  rfl

/-- In a project without groups only a decorator enters a member into a group. -/
theorem enterGroup_eq_of_unnamed
    {member owner : Declaration}
    (isProject : owner.kind = .project)
    (unnamed : ∀ decorator ∈ member.info.decorators, decorator.name ≠ groupDecorator) :
    enterGroup false member owner = owner := by
  unfold enterGroup
  split
  · rfl
  · rename_i group grouped
    simp [source_of_classify grouped unnamed, isProject]

/-- What a walk without groups changes at the top: groups, if something names them. -/
structure Ungrouping
    (objects : List ApiObject)
    (before after : Owner × Assembly) :
    Prop where
  regroups : Regroups before after
  groups_eq : ¬ Mentioned groupDecorator objects → before.1.node.kind = .project →
    after.1.node.info.groups = before.1.node.info.groups

namespace Ungrouping

theorem of_info_eq
    {objects : List ApiObject}
    {before after : Owner × Assembly}
    (infoEq : after.1.node.info = before.1.node.info) :
    Ungrouping objects before after :=
  ⟨.of_info_eq infoEq, fun _ _ => congrArg Info.groups infoEq⟩

theorem trans
    {first : ApiObject}
    {rest : List ApiObject}
    {start between finish : Owner × Assembly}
    (firstStep : Ungrouping [first] start between)
    (restStep : Ungrouping rest between finish) :
    Ungrouping (first :: rest) start finish := by
  refine ⟨firstStep.regroups.trans restStep.regroups, ?_⟩
  intro unmentioned isProject
  obtain ⟨notInFirst, notInRest⟩ := not_or.mp (mentioned_cons_iff.not.mp unmentioned)
  rw [restStep.groups_eq notInRest (firstStep.regroups.kind_eq.trans isProject),
    firstStep.groups_eq notInFirst isProject]

/-- A member whose decorators name no group is entered into none. -/
theorem closed
    {options : Options}
    {here : Site}
    {facts : Facts}
    {members : List ApiObject}
    {owner : Owner}
    {assembly : Assembly}
    {inside : Owner × Assembly}
    (steps : Ungrouping members (assembly.opened options here facts owner.node.kind)
      inside) :
    Ungrouping [.mk facts members] (owner, assembly)
      (Assembly.closed false here facts owner inside) := by
  refine ⟨.closed _ _ _ _ _ _, ?_⟩
  intro unmentioned isProject
  obtain ⟨_, _, _, _, memberEq⟩ := steps.regroups.exists_info_complete
  simp only [Assembly.closed]
  generalize (inside.2.complete facts (docstringAt here facts) inside.1).1 = member
    at memberEq ⊢
  have unnamed : ∀ decorator ∈ member.info.decorators,
      decorator.name ≠ groupDecorator := by
    rw [memberEq]
    intro decorator isDecorator named
    exact unmentioned
      (mentioned_mk_iff.mpr (.inl (.inr ⟨decorator, isDecorator, named⟩)))
  rw [Declaration.info_addChild, enterGroup_eq_of_unnamed isProject unnamed]

end Ungrouping

theorem roleLaw_ungrouping (options : Options) :
    RoleLaw options false Ungrouping where
  nil _ := .of_info_eq rfl
  cons _ _ _ _ _ firstStep restStep := firstStep.trans restStep
  opens _ _ _ _ _ inside :=
    ⟨inside.regroups, fun unmentioned => inside.groups_eq fun mentioned =>
      unmentioned (mentioned_mk_iff.mpr (.inr mentioned))⟩
  addsAlias _ _ _ _ _ := .of_info_eq rfl
  waits _ _ _ _ _ := .of_info_eq rfl
  declares _ _ _ _ _ _ _ steps := steps.closed

/-- Nothing is entered into groups of a project if nothing names them. -/
theorem groups_assemble
    {modules : List ApiObject}
    (unmentioned : ¬ Mentioned groupDecorator modules)
    (options : Options) :
    (assemble options modules).1.info.groups = [] := by
  have unused : ApiObject.anyMentions groupDecorator modules = false :=
    Bool.eq_false_iff.mpr fun found => unmentioned (anyMentions_iff.mp found)
  have walked := (roleLaw_ungrouping options).walkAll modules {}
    ({ node := emptyRoot options }, {})
  rw [assemble, unused]
  refine (congrArg Info.groups
    (Assembly.merges_mergeOverloads _ _ _).info_eq).trans ?_
  exact walked.groups_eq unmentioned rfl

/-! ## Members listed by their own numbers -/

/-- Where a declaration is to be listed: under the title of its group, by its number. -/
def ownEntry (info : Info) : Option String × DeclId :=
  (info.classify.map (·.title), info.id)

/-- That groups list some members once each, where they are to be listed. -/
def ListsOwn : Presentation :=
  fun groups infos =>
    ((listing groups).map fun entry => (some entry.1, entry.2)).Perm
      (infos.map ownEntry)

theorem steady_listsOwn : Steady ListsOwn := by
  intro groups before after relinked lists
  have same : after.map ownEntry = before.map ownEntry := by
    clear lists
    induction relinked with
    | nil => rfl
    | cons firstRelinked _ inductionHypothesis =>
        obtain ⟨_, _, _, rfl⟩ := firstRelinked
        rw [List.map_cons, List.map_cons, inductionHypothesis]
        rfl
  rw [ListsOwn, same]
  exact lists

theorem sortable_listsOwn : Sortable ListsOwn :=
  fun declaration _ lists => ((listing_sortMembers declaration).map _).trans lists

/-- A member is entered by its own number under the title it is given. -/
theorem enterable_listsOwn : Enterable ListsOwn where
  steady := steady_listsOwn
  sortable := sortable_listsOwn
  empty := .nil
  entered groups infos member group grouped _ lists := by
    have isOwn : ownEntry member = (some group.title, member.id) := by
      rw [ownEntry, grouped]
      rfl
    refine ((listing_enter group.title member.id groups).map _).trans ?_
    rw [List.map_append, List.map_append, List.map_singleton, List.map_singleton, isOwn]
    exact lists.append_right _

/--
That the groups of a declaration divide its members: each member is listed in one
group, once and by its own number, the group has the title that the member is given,
and nothing else is listed.
-/
structure GroupsPartition (declaration : Declaration) : Prop where
  listed : ∀ child ∈ declaration.children, ∃ assignment group,
    child.info.classify = some assignment ∧
      declaration.info.groups.filter (child.id ∈ ·.entries) = [group] ∧
      group.title = assignment.title ∧
      group.entries.count child.id = 1
  nothingElse : ∀ group ∈ declaration.info.groups, ∀ entry ∈ group.entries,
    ∃ child ∈ declaration.children, child.id = entry

/-- Only one group has an entry if no entry stands in groups twice. -/
theorem filter_mem_entries_eq
    {groups : List Group}
    {group : Group}
    {number : DeclId}
    (distinct : (groups.flatMap (·.entries)).Nodup)
    (isGroup : group ∈ groups)
    (isEntry : number ∈ group.entries) :
    groups.filter (number ∈ ·.entries) = [group] := by
  induction groups with
  | nil =>
      cases isGroup
  | cons first rest inductionHypothesis =>
      rw [List.flatMap_cons, List.nodup_append'] at distinct
      obtain ⟨-, restDistinct, apart⟩ := distinct
      rcases List.mem_cons.mp isGroup with rfl | inRest
      · have notInRest : ∀ other ∈ rest, number ∉ other.entries :=
          fun other isOther isThere =>
            apart isEntry (List.mem_flatMap.mpr ⟨other, isOther, isThere⟩)
        rw [List.filter_cons_of_pos (by simpa using isEntry),
          List.filter_eq_nil_iff.mpr (by simpa using notInRest)]
      · have notInFirst : number ∉ first.entries := fun isThere =>
          apart isThere (List.mem_flatMap.mpr ⟨group, inRest, isEntry⟩)
        rw [List.filter_cons_of_neg (by simpa using notInFirst)]
        exact inductionHypothesis restDistinct inRest

/-- Groups that list members where they are to be listed divide them. -/
theorem groupsPartition_of_listsOwn
    {declaration : Declaration}
    (lists : declaration.Presents ListsOwn)
    (distinct : (declaration.children.map Declaration.id).Nodup) :
    GroupsPartition declaration := by
  have numbers : declaration.entries.Perm (declaration.children.map Declaration.id) := by
    have second := lists.map Prod.snd
    rw [List.map_map, List.map_map, List.map_map] at second
    rw [Declaration.entries_eq_map_listing]
    exact second
  have entriesDistinct := numbers.nodup_iff.mpr distinct
  constructor
  · intro child isChild
    have isListed := lists.symm.subset
      (List.mem_map_of_mem (List.mem_map_of_mem (f := Declaration.info) isChild))
    obtain ⟨⟨title, number⟩, isEntry, isOwn⟩ := List.mem_map.mp isListed
    obtain ⟨titleEq, rfl⟩ := Prod.mk.inj isOwn
    obtain ⟨group, isGroup, rfl, inGroup⟩ := mem_listing_iff.mp isEntry
    obtain ⟨assignment, classified, sameTitle⟩ :=
      Option.map_eq_some_iff.mp titleEq.symm
    refine ⟨assignment, group, classified,
      filter_mem_entries_eq entriesDistinct isGroup inGroup, sameTitle.symm, ?_⟩
    exact List.count_eq_one_of_mem
      ((List.nodup_flatMap.mp entriesDistinct).1 group isGroup) inGroup
  · intro group isGroup entry isEntry
    have isNumber := numbers.subset (List.mem_flatMap.mpr ⟨group, isGroup, isEntry⟩)
    exact List.mem_map.mp isNumber

/-! ## The converted project -/

section

variable
    {options : Options}
    {parser : TypeParser}
    {modules : List ApiObject}
    {conversion : Conversion}

/-- Inheriting keeps the project and its members, but for their groups and links. -/
theorem sameTop_inherited
    (options : Options)
    (modules : List ApiObject) :
    SameTop (assemble options modules).1 (inherited options modules).root := by
  rw [inherited, Hierarchy.resolve_eq_flowAlong]
  exact Hierarchy.sameTop_flowAlong (innerEnds_schedule options modules)

/-- Finishing a declaration keeps where its members are to be listed. -/
theorem presents_listsOwn_finished
    {declaration : Declaration}
    (lists : declaration.Presents ListsOwn)
    (resolved : Resolve.Resolved)
    (lookup : String → Option DeclId) :
    (declaration.mapInfo (finishInfo resolved lookup)).sortMembers.Presents ListsOwn := by
  have finished : (declaration.mapInfo (finishInfo resolved lookup)).Presents ListsOwn := by
    rw [Declaration.presents_mapInfo_iff, groups_finishInfo, ListsOwn, List.map_map]
    have same : ownEntry ∘ finishInfo resolved lookup = ownEntry := by
      funext info
      simp [ownEntry, classify_finishInfo]
    rw [same]
    exact lists
  rw [Declaration.Presents, Declaration.children_sortMembers]
  exact sortable_listsOwn _ _ finished

/--
A converted project has no groups unless something anywhere in the dump is named like
the decorator that names groups.  If something is, the groups of the project divide
its members.
-/
theorem root_groups_follow_mention
    (converted : convertModules options parser modules = .ok conversion) :
    (¬ Mentioned groupDecorator modules → conversion.project.root.info.groups = []) ∧
      (Mentioned groupDecorator modules → GroupsPartition conversion.project.root) := by
  obtain ⟨answers, finished⟩ := exists_finished converted
  obtain ⟨infoEq, members⟩ := sameTop_inherited options modules
  constructor
  · intro unmentioned
    have noGroups : ((inherited options modules).root.mapInfo
        (finishInfo (resolvedTypes options modules answers)
          (declaredAs options modules))).info.groups = [] := by
      rw [Declaration.info_mapInfo, groups_finishInfo, infoEq,
        groups_assemble unmentioned]
    rw [finished.root_eq, Declaration.sortMembers, Declaration.info_updateInfo, noGroups]
    rfl
  · intro mentioned
    have assembled := (presents_assemble enterable_listsOwn options modules).2
      (anyMentions_iff.mpr mentioned)
    have afterwards : (inherited options modules).root.Presents ListsOwn := by
      rw [Declaration.Presents, infoEq]
      exact steady_listsOwn _ _ _ members assembled
    have numbered := numberedFrom_inherited options modules
    refine groupsPartition_of_listsOwn ?_ ?_
    · rw [finished.root_eq]
      exact presents_listsOwn_finished afterwards _ _
    · exact Declaration.nodup_ids_children (finished.ids_eq ▸ numbered.distinct)

end

/-- A class that names its group, with a method, and a function beside it. -/
def groupedModules : List ApiObject :=
  [ .mk { name := "pkg", tag := "module" }
      [ .mk
          { name := "Zoo"
            tag := "class"
            decorators := [⟨"docs_group", some "(\"Animals\")"⟩] }
          [.mk { name := "feed", tag := "function" } []],
        .mk { name := "main", tag := "function" } [] ] ]

/-- One decorator gives every member of the project a group; without it none has one. -/
theorem root_groups_follow_mention_of_class :
    (∃ conversion,
      convertModules {} TypeParser.silent groupedModules = .ok conversion ∧
        Mentioned groupDecorator groupedModules ∧
        conversion.project.root.info.groups.map (·.title) = ["Animals", "Methods"] ∧
        GroupsPartition conversion.project.root) ∧
      ∃ conversion,
        convertModules {} TypeParser.silent layeredModules = .ok conversion ∧
          ¬ Mentioned groupDecorator layeredModules ∧
          conversion.project.root.info.groups = [] := by
  constructor
  · obtain ⟨conversion, converted⟩ :=
      exists_silent_conversion (failure_inherited {} groupedModules)
    obtain ⟨answers, finished⟩ := exists_finished converted
    cases finished.answered
    have mentioned : Mentioned groupDecorator groupedModules := by
      decide
    refine ⟨conversion, converted, mentioned, ?_,
      (root_groups_follow_mention converted).2 mentioned⟩
    rw [finished.root_eq]
    decide +kernel
  · obtain ⟨conversion, converted⟩ :=
      exists_silent_conversion (failure_inherited {} layeredModules)
    have unmentioned : ¬ Mentioned groupDecorator layeredModules := by
      decide
    exact ⟨conversion, converted, unmentioned,
      (root_groups_follow_mention converted).1 unmentioned⟩

end ApiTree.Convert
