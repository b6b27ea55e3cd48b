import ApiTree.Proofs.Convert.Declared
import ApiTree.Proofs.Hierarchy.Heritable

namespace ApiTree.Convert

open ApiTree.Decl
open ApiTree.Dump (ApiObject Argument Docstring Facts)
open ApiTree.Interp (TypeParser)

/-!
# Groups of assembled declarations

Whatever the walk makes a member of has a kind that some rule gives a group, and
below the project the member is entered into that group.  So what holds of a
declaration without members, and is kept when a member is entered, holds of every
declaration below the project.  As every member has a group, members are
inherited without failure, and a conversion fails only if its types do.
-/

/-- What holds of a declaration whose members were entered one after another. -/
structure Enterable (good : Presentation) : Prop where
  steady : Steady good
  sortable : Sortable good
  empty : good [] []
  entered : ∀ groups infos member group, Info.classify member = some group →
    member.sources ≠ [] → good groups infos →
      good (Info.addToGroup.enter group.title member.id groups)
        (infos ++ [member])

variable
    {good : Presentation}

/-! ## Signatures -/

theorem info_addSignature (declaration signature : Declaration) :
    (declaration.addSignature signature).info = declaration.info := by
  cases declaration
  rfl

namespace Assembly

theorem bare_parameters
    (docstring : Docstring)
    (arguments : List Argument)
    (assembly : Assembly) :
    ∀ parameter ∈ (assembly.parameters docstring arguments).1,
      parameter.PresentsThroughout Declaration.Bare := by
  induction arguments generalizing assembly with
  | nil =>
      intro parameter isParameter
      cases isParameter
  | cons argument rest inductionHypothesis =>
      exact List.forall_mem_cons.mpr
        ⟨Declaration.bare_ofInfo rfl,
          inductionHypothesis (assembly.parameter docstring argument).2⟩

/-- Signatures and their parameters have no members. -/
theorem bare_signature
    (facts : Facts)
    (docstring : Docstring)
    (name : String)
    (assembly : Assembly) :
    (assembly.signature facts docstring name).1.PresentsThroughout Declaration.Bare := by
  refine Declaration.presentsThroughout_iff.mpr
    ⟨⟨rfl, rfl⟩, Declaration.presentsBelow_iff.mpr ⟨?_, ?_, ?_⟩⟩
  · intro child isChild
    cases isChild
  · intro signature isSignature
    cases isSignature
  · exact bare_parameters docstring (facts.arguments.filter (!·.isReceiver)) _

/-- A signature that joins a member changes nothing that is presented. -/
theorem presents_mergeOverloads
    (steady : Steady good)
    (empty : good [] [])
    (overloads : List Facts)
    {node : Declaration}
    (below : node.PresentsBelow good)
    (assembly : Assembly) :
    (assembly.mergeOverloads overloads node).1.PresentsBelow good ∧
      (node.Presents good →
        (assembly.mergeOverloads overloads node).1.Presents good) := by
  induction overloads generalizing node assembly with
  | nil =>
      exact ⟨below, fun atTop => atTop⟩
  | cons overload rest inductionHypothesis =>
      rw [mergeOverloads]
      have first :
          (assembly.mergeOverload node overload).1.PresentsBelow good ∧
            (node.Presents good →
              (assembly.mergeOverload node overload).1.Presents good) := by
        simp only [mergeOverload]
        split
        · exact ⟨below, fun atTop => atTop⟩
        · rename_i position callable found
          have isCallable := getElem?_of_callable found
          constructor
          · refine below.setChild position
              ((below.child (List.mem_of_getElem? isCallable)).addSignature ?_)
            exact .of_bare empty (bare_signature _ _ _ _)
          · intro atTop
            refine atTop.setChild steady isCallable ?_
            rw [info_addSignature]
            exact .refl callable.info
      obtain ⟨restBelow, restAtTop⟩ := inductionHypothesis first.1
        (assembly.mergeOverload node overload).2
      exact ⟨restBelow, fun atTop => restAtTop (first.2 atTop)⟩

end Assembly

/-! ## Kinds -/

/-- The kinds of declarations that are members of others. -/
def isMemberKind : Kind → Bool
  | .project | .callSignature | .parameter => false
  | _ => true

/-- A rule gives every member a group. -/
theorem grouped_of_isMember
    {info : Info}
    (isMember : isMemberKind info.kind = true) :
    Grouped info := by
  unfold Grouped Info.classify
  split
  · simp
  · have ruled : ∃ rule ∈ groupRules, rule.2 info = true := by
      cases kindEq : info.kind <;> simp [isMemberKind, kindEq] at isMember <;>
        simp [groupRules, kindEq]
    obtain ⟨rule, isRule, applies⟩ := ruled
    simp only [ne_eq, Option.map_eq_none_iff, List.find?_eq_none, not_forall]
    exact ⟨rule, isRule, by simp [applies]⟩

theorem isMember_baseKind?
    {facts : Facts}
    {kind : Kind}
    (isBase : facts.baseKind? = some kind) :
    isMemberKind kind = true := by
  unfold Facts.baseKind? at isBase
  repeat' split at isBase
  all_goals cases isBase; try rfl

theorem isMember_shape
    (ownerKind : Kind)
    (facts : Facts) :
    isMemberKind (Shape.of ownerKind facts).kind = true := by
  unfold Shape.of
  split
  · rfl
  · split
    · rfl
    · split
      · rfl
      · cases isBase : facts.baseKind? with
        | none => rfl
        | some kind =>
            have isMember := isMember_baseKind? isBase
            simp only [Option.getD_some]
            split
            · rfl
            · exact isMember

namespace Assembly

/-- The declaration that is completed has alternative signatures merged into it. -/
theorem exists_complete_eq
    (facts : Facts)
    (docstring : Docstring)
    (owner : Owner)
    (assembly : Assembly) :
    ∃ based : Assembly, (assembly.complete facts docstring owner).1 =
      (based.mergeOverloads owner.overloads owner.node).1 :=
  ⟨_, rfl⟩

/-- What a declaration says of itself when it is made. -/
theorem exists_info_declaration
    (options : Options)
    (site : Site)
    (ownerKind : Kind)
    (facts : Facts)
    (docstring : Docstring)
    (assembly : Assembly) :
    ∃ id kind type,
      (assembly.declaration options site ownerKind facts docstring).1.info =
        { id := id
          name := facts.displayName
          kind := kind
          comment := summaryComment? docstring
          decorators := facts.decorators
          moduleLabel := moduleLabel options site facts.name
          sources :=
            [⟨ApiTree.Text.erase options.repositoryRoot site.file,
              facts.location.line, 1⟩]
          type := type
          bases := facts.bases } := by
  simp only [declaration]
  split
  · rw [info_addSignature]
    exact ⟨_, _, _, rfl⟩
  · exact ⟨_, _, _, rfl⟩

/-- A declaration that is made is a member, and it has neither members nor groups. -/
theorem bare_declaration
    (options : Options)
    (site : Site)
    (ownerKind : Kind)
    (facts : Facts)
    (docstring : Docstring)
    (assembly : Assembly) :
    isMemberKind
        (assembly.declaration options site ownerKind facts docstring).1.kind =
          true ∧
      (assembly.declaration options site ownerKind facts
        docstring).1.PresentsThroughout Declaration.Bare := by
  have isMember := isMember_shape ownerKind facts
  simp only [declaration]
  split
  · constructor
    · rw [Declaration.kind, info_addSignature]
      simp only [Declaration.ofInfo, Declaration.info_node]
      split <;> rfl
    · exact (Declaration.bare_ofInfo rfl).addSignature
        (bare_signature _ _ _ _)
  · exact ⟨isMember, Declaration.bare_ofInfo rfl⟩

end Assembly

/-! ## The walk -/

/-- That an owner changes in its groups at most, apart from its members. -/
def Regroups (before after : Owner × Assembly) : Prop :=
  ∃ groups, after.1.node.info = { before.1.node.info with groups := groups }

namespace Regroups

variable
    {before middle after : Owner × Assembly}

theorem of_info_eq
    (infoEq : after.1.node.info = before.1.node.info) :
    Regroups before after :=
  ⟨before.1.node.info.groups, infoEq⟩

theorem trans
    (first : Regroups before middle)
    (second : Regroups middle after) :
    Regroups before after := by
  obtain ⟨_, firstEq⟩ := first
  obtain ⟨groups, secondEq⟩ := second
  exact ⟨groups, by rw [secondEq, firstEq]⟩

theorem kind_eq
    (regroups : Regroups before after) :
    after.1.node.kind = before.1.node.kind := by
  obtain ⟨groups, infoEq⟩ := regroups
  rw [Declaration.kind, infoEq]
  rfl

/-- A member that joins changes the groups of its owner at most. -/
theorem closed
    (usesGroups : Bool)
    (here : Site)
    (facts : Facts)
    (owner : Owner)
    (assembly : Assembly)
    (inside : Owner × Assembly) :
    Regroups (owner, assembly) (Assembly.closed usesGroups here facts owner inside) := by
  obtain ⟨groups, enteredEq⟩ := exists_enterGroup_eq usesGroups
    (inside.2.complete facts (docstringAt here facts) inside.1).1 owner.node
  refine ⟨groups, ?_⟩
  rw [Assembly.closed, Declaration.info_addChild, enteredEq, Declaration.info_updateInfo]

/-- What a declaration says of itself stays, but for its groups, until it is complete. -/
theorem exists_info_complete
    {options : Options}
    {here : Site}
    {facts : Facts}
    {ownerKind : Kind}
    {assembly : Assembly}
    {inside : Owner × Assembly}
    (steps : Regroups (assembly.opened options here facts ownerKind) inside) :
    ∃ id kind type groups,
      (inside.2.complete facts (docstringAt here facts) inside.1).1.info =
        { id := id
          name := facts.displayName
          kind := kind
          comment := summaryComment? (docstringAt here facts)
          decorators := facts.decorators
          moduleLabel := moduleLabel options here facts.name
          sources :=
            [⟨ApiTree.Text.erase options.repositoryRoot here.file,
              facts.location.line, 1⟩]
          type := type
          groups := groups
          bases := facts.bases } := by
  obtain ⟨groups, insideEq⟩ := steps
  obtain ⟨id, kind, type, openedEq⟩ := Assembly.exists_info_declaration options here
    ownerKind facts (docstringAt here facts) assembly
  obtain ⟨-, completedEq, -⟩ :=
    Assembly.named_complete facts (docstringAt here facts) inside.1 inside.2
  refine ⟨id, kind, type, groups, ?_⟩
  rw [completedEq, insideEq, Assembly.opened, openedEq]

end Regroups

/-- A member joins its owner in its group, unless the owner is a project without groups. -/
theorem presents_enterGroup
    (enterable : Enterable good)
    {usesGroups : Bool}
    {owner member : Declaration}
    (isMember : isMemberKind member.kind = true)
    (isSpotted : member.info.sources ≠ [])
    (grouping : owner.kind ≠ .project ∨ usesGroups = true)
    (atTop : owner.Presents good) :
    ((enterGroup usesGroups member owner).addChild
      member.sortMembers).Presents good := by
  obtain ⟨group, grouped⟩ :=
    Option.ne_none_iff_exists'.mp (grouped_of_isMember isMember)
  have entered :
      enterGroup usesGroups member owner =
        owner.updateInfo (·.addToGroup group.title member.id) := by
    simp [enterGroup, grouped, grouping]
  have classified : member.sortMembers.info.classify = some group := by
    rw [← grouped]
    cases member
    rfl
  have stillSpotted : member.sortMembers.info.sources ≠ [] := by
    cases member
    exact isSpotted
  have joined := enterable.entered _ _ _ _ classified stillSpotted atTop
  rw [Declaration.Presents, entered, Declaration.info_addChild,
    Declaration.info_updateInfo, Declaration.children_addChild,
    Declaration.children_updateInfo, List.map_append, List.map_singleton]
  cases member
  exact joined

theorem presentsBelow_enterGroup_iff
    {usesGroups : Bool}
    {owner member : Declaration} :
    (enterGroup usesGroups member owner).PresentsBelow good ↔
      owner.PresentsBelow good := by
  unfold enterGroup
  split
  · exact Iff.rfl
  · split
    · cases owner
      exact Iff.rfl
    · exact Iff.rfl

/-- What a walk keeps of an owner, and of what is below it. -/
structure Presenting
    (good : Presentation)
    (usesGroups : Bool)
    (before after : Owner × Assembly) :
    Prop where
  regroups : Regroups before after
  below : before.1.node.PresentsBelow good → after.1.node.PresentsBelow good
  atTop : before.1.node.PresentsBelow good →
    before.1.node.kind ≠ .project ∨ usesGroups = true →
      before.1.node.Presents good → after.1.node.Presents good

/-- Every walk keeps what is kept when a member is entered. -/
theorem walkLaw_presenting
    (enterable : Enterable good)
    (options : Options)
    (usesGroups : Bool) :
    WalkLaw options usesGroups (Presenting good usesGroups) where
  refl _ := ⟨.of_info_eq rfl, fun below => below, fun _ _ atTop => atTop⟩
  trans first second third firstStep secondStep := by
    refine ⟨firstStep.regroups.trans secondStep.regroups,
      fun below => secondStep.below (firstStep.below below), ?_⟩
    intro below grouping atTop
    exact secondStep.atTop (firstStep.below below)
      (firstStep.regroups.kind_eq ▸ grouping) (firstStep.atTop below grouping atTop)
  addsAlias _ _ _ :=
    ⟨.of_info_eq rfl, fun below => below, fun _ _ atTop => atTop⟩
  waits _ _ _ :=
    ⟨.of_info_eq rfl, fun below => below, fun _ _ atTop => atTop⟩
  declares here facts owner assembly inside steps := by
    obtain ⟨openedMember, openedBare⟩ :=
      Assembly.bare_declaration options here owner.node.kind facts
        (docstringAt here facts) assembly
    have opened := Declaration.PresentsThroughout.of_bare enterable.empty openedBare
    obtain ⟨openedAtTop, openedBelow⟩ :=
      Declaration.presentsThroughout_iff.mp opened
    have notProject :
        (assembly.opened options here facts owner.node.kind).1.node.kind ≠
          .project := by
      intro isProject
      rw [show (assembly.declaration options here owner.node.kind facts
        (docstringAt here facts)).1.kind = .project from isProject]
        at openedMember
      cases openedMember
    obtain ⟨based, completed⟩ :=
      Assembly.exists_complete_eq facts (docstringAt here facts) inside.1
        inside.2
    obtain ⟨memberBelow, memberAtTop⟩ :=
      Assembly.presents_mergeOverloads enterable.steady enterable.empty
        inside.1.overloads (steps.below openedBelow) based
    have memberKind :=
      congrArg Info.kind
        (Assembly.merges_mergeOverloads inside.1.overloads inside.1.node
          based).info_eq
    rw [← completed] at memberBelow memberAtTop memberKind
    have isMember :=
      (congrArg isMemberKind (memberKind.trans steps.regroups.kind_eq)).trans
        openedMember
    have isSpotted :
        (inside.2.complete facts (docstringAt here facts)
          inside.1).1.info.sources ≠ [] := by
      obtain ⟨_, _, _, _, infoEq⟩ := steps.regroups.exists_info_complete
      rw [infoEq]
      exact List.cons_ne_nil _ _
    have memberPresents :=
      Declaration.presentsThroughout_iff.mpr
        ⟨memberAtTop (steps.atTop openedBelow (.inl notProject) openedAtTop),
          memberBelow⟩
    refine ⟨.closed _ _ _ _ _ _, ?_, ?_⟩
    · intro below
      exact (presentsBelow_enterGroup_iff.mpr below).addChild
        (memberPresents.sortMembers enterable.sortable)
    · intro _ grouping atTop
      exact presents_enterGroup enterable isMember isSpotted grouping atTop

/--
What is kept when a member is entered holds of every declaration assembled, and of the
project itself if some decorator names a group.
-/
theorem presents_assemble
    (enterable : Enterable good)
    (options : Options)
    (modules : List ApiObject) :
    (assemble options modules).1.PresentsBelow good ∧
      (ApiObject.anyMentions groupDecorator modules = true →
        (assemble options modules).1.Presents good) := by
  have walked :=
    (walkLaw_presenting enterable options
      (ApiObject.anyMentions groupDecorator modules)).walkAll modules {}
        ({ node := emptyRoot options }, {})
  have startBare : (emptyRoot options).PresentsThroughout Declaration.Bare :=
    Declaration.bare_ofInfo rfl
  obtain ⟨startAtTop, startBelow⟩ :=
    Declaration.presentsThroughout_iff.mp (.of_bare enterable.empty startBare)
  obtain ⟨mergedBelow, mergedAtTop⟩ :=
    Assembly.presents_mergeOverloads enterable.steady enterable.empty _
      (walked.below startBelow) _
  exact ⟨mergedBelow, fun usesGroups =>
    mergedAtTop (walked.atTop startBelow (.inr usesGroups) startAtTop)⟩

theorem presentsBelow_assemble
    (enterable : Enterable good)
    (options : Options)
    (modules : List ApiObject) :
    (assemble options modules).1.PresentsBelow good :=
  (presents_assemble enterable options modules).1

theorem enterable_grouped :
    Enterable (OfMembers fun infos => ∀ info ∈ infos, Grouped info) where
  steady := heritable_grouped.steady
  sortable := sortable_ofMembers _
  empty := List.forall_mem_nil _
  entered := by
    intro _ infos member group isGroup _ grouped
    refine List.forall_mem_append.mpr
      ⟨grouped, List.forall_mem_singleton.mpr ?_⟩
    simp [Grouped, isGroup]

/-! ## Inheriting -/

/-- No class is the project itself, so members flow below the project only. -/
theorem innerEnds_assemble
    (options : Options)
    (modules : List ApiObject) :
    ∀ edge ∈ (assemble options modules).2.hierarchy.resolvedEdges,
      Inheriting.InnerEnds (assemble options modules).1.childPaths edge := by
  intro edge isEdge
  have notClass (ends : Hierarchy.EndsAt (assemble options modules).1
      (assemble options modules).2.hierarchy.resolvedEdges []) : False := by
    have isClass := classEnds_assemble options modules [] _ ends rfl
    rw [kind_assemble] at isClass
    cases isClass
  exact
    ⟨fun looked => notClass ⟨edge, isEdge, .inl looked⟩,
      fun looked => notClass ⟨edge, isEdge, .inr looked⟩⟩

/-- Members are always inherited without failure. -/
theorem failure_inherited
    (options : Options)
    (modules : List ApiObject) :
    (inherited options modules).failure = none := by
  rw [inherited, Hierarchy.resolve_eq_flowAlong]
  exact Hierarchy.failure_flowAlong (numberedFrom_assemble options modules)
    (fun edge isScheduled => innerEnds_assemble options modules edge
      (Hierarchy.schedule_subset _ isScheduled))
    (presentsBelow_assemble enterable_grouped options modules)

/--
A conversion fails if and only if the type parser does, and then with the error of
the type parser.  Inheriting members is no reason for it to fail.
-/
theorem fails_iff_types_fail
    (options : Options)
    (parser : TypeParser)
    (modules : List ApiObject) :
    (∀ error,
      convertModules options parser modules = .error error ↔
        ∃ fault,
          parser (assemble options modules).2.pending.batch = .error fault ∧
            error = .types fault) ∧
      ∀ error, convertModules options parser modules ≠ .error (.hierarchy error) := by
  have inherits := failure_inherited options modules
  rw [inherited] at inherits
  have fails_iff (error : ConversionError) :
      convertModules options parser modules = .error error ↔
        ∃ fault,
          parser (assemble options modules).2.pending.batch = .error fault ∧
            error = .types fault := by
    simp only [convertModules, inherits]
    cases answered : parser (assemble options modules).2.pending.batch with
    | error fault => simp [eq_comm]
    | ok answers => simp
  refine ⟨fails_iff, ?_⟩
  intro error failed
  obtain ⟨fault, -, isTypes⟩ := (fails_iff _).mp failed
  cases isTypes

end ApiTree.Convert
