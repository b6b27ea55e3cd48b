import ApiTree.Proofs.Convert.Merging
import ApiTree.Proofs.Hierarchy.Composition

namespace ApiTree.Convert

open ApiTree.Decl
open ApiTree.Dump (ApiObject Argument Docstring Facts)
open ApiTree.Interp (TypeParser)
open ApiTree.Resolve (Resolved)

/-!
# The kinds of nodes in a converted project

Each declaration that the walk makes is composed as its kind demands: a callable has
its signature from the start, and nothing else ever gets one.  Members join an owner
that may have members, signatures join callables, and members that are inherited are
copies of members.  So the project is the only node of its kind, and everything below
it has the place that its kind demands.
-/

/-- The kinds of members are those of what the walk makes. -/
theorem mem_ofMembers_iff
    {kind : Kind} :
    kind ∈ Kind.ofMembers ↔ isMemberKind kind = true := by
  cases kind <;> decide

theorem isCallable_iff
    {kind : Kind} :
    kind.isCallable = true ↔ kind = .method ∨ kind = .constructor := by
  cases kind <;> decide

/-- No tag stands for a constructor: it is a method of a certain name. -/
theorem kind_shape_ne_constructor
    (ownerKind : Kind)
    (facts : Facts) :
    (Shape.of ownerKind facts).kind ≠ .constructor := by
  have notBase : facts.baseKind? ≠ some .constructor := by
    unfold Facts.baseKind?
    repeat' split
    all_goals simp
  unfold Shape.of
  split
  · exact nofun
  · split
    · exact nofun
    · split
      · exact nofun
      · cases isBase : facts.baseKind? with
        | none => exact nofun
        | some kind =>
            simp only [Option.getD_some]
            split
            · exact nofun
            · rintro rfl
              exact notBase isBase

namespace Assembly

/-! ## Made declarations -/

theorem kinds_parameters
    (docstring : Docstring)
    (arguments : List Argument)
    (assembly : Assembly) :
    ∀ parameter ∈ (assembly.parameters docstring arguments).1,
      parameter.kind = .parameter ∧ parameter.WellComposed := by
  induction arguments generalizing assembly with
  | nil =>
      intro parameter isParameter
      cases isParameter
  | cons argument rest inductionHypothesis =>
      exact List.forall_mem_cons.mpr
        ⟨⟨rfl, Declaration.wellComposed_ofInfo ⟨nofun, nofun⟩⟩,
          inductionHypothesis (assembly.parameter docstring argument).2⟩

/-- A signature has nothing but its parameters. -/
theorem kinds_signature
    (facts : Facts)
    (docstring : Docstring)
    (name : String)
    (assembly : Assembly) :
    (assembly.signature facts docstring name).1.kind = .callSignature ∧
      (assembly.signature facts docstring name).1.WellComposed :=
  ⟨rfl, Declaration.wellComposed_signature rfl (kinds_parameters _ _ _)⟩

theorem warnings_shapeType
    (shape : Shape)
    (assembly : Assembly) :
    (assembly.shapeType shape).2.warnings = assembly.warnings := by
  cases shape <;> rfl

/-- How a declaration is made of an object that has a docstring. -/
inductive Making
    (facts : Facts)
    (docstring : Docstring)
    (before : Assembly) :
    Declaration × Assembly → Prop where
  /-- A callable has a signature of its own. -/
  | callable
      (info : Info)
      (named after : Assembly)
      (isCallable : info.kind.isCallable = true)
      (name_eq : info.name = facts.displayName)
      (comment_eq : info.comment = summaryComment? docstring)
      (docstrings_eq : after.docstrings = before.docstrings)
      (warnings_eq : after.warnings = before.warnings) :
      Making facts docstring before
        ((Declaration.ofInfo info).addSignature
            (named.signature facts docstring facts.displayName).1,
          after)
  /-- Another member has nothing of its own. -/
  | plain
      (info : Info)
      (after : Assembly)
      (isMember : info.kind ∈ Kind.ofMembers)
      (notCallable : info.kind.isCallable = false)
      (name_eq : info.name = facts.displayName)
      (comment_eq : info.comment = summaryComment? docstring)
      (docstrings_eq : after.docstrings = before.docstrings)
      (warnings_eq : after.warnings = before.warnings) :
      Making facts docstring before (.ofInfo info, after)

/-- A declaration is made in one of these ways. -/
theorem making_declaration
    (options : Options)
    (site : Site)
    (ownerKind : Kind)
    (facts : Facts)
    (docstring : Docstring)
    (assembly : Assembly) :
    Making facts docstring assembly
      (assembly.declaration options site ownerKind facts docstring) := by
  have notConstructor := kind_shape_ne_constructor ownerKind facts
  have isMember := mem_ofMembers_iff.mpr (isMember_shape ownerKind facts)
  have sameWarnings := warnings_shapeType (Shape.of ownerKind facts) assembly
  have sameDocstrings :=
    (shapeType_apart (Shape.of ownerKind facts) assembly).1.docstrings_eq
  simp only [declaration]
  split
  · refine .callable _ _ _ ?_ rfl rfl ?_ ?_
    · dsimp only
      split <;> rfl
    · rw [(adds_recordSignature _ _ _).docstrings_eq,
        (signature_apart _ _ _ _).1.docstrings_eq]
      exact sameDocstrings
    · rw [warnings_recordSignature, warnings_signature]
      exact sameWarnings
  · rename_i notMethod
    refine .plain _ _ isMember ?_ rfl rfl sameDocstrings sameWarnings
    rw [← Bool.not_eq_true, isCallable_iff]
    exact not_or.mpr ⟨notMethod, notConstructor⟩

/-- A declaration is made with what its kind demands. -/
theorem Making.kinds
    {facts : Facts}
    {docstring : Docstring}
    {before : Assembly}
    {made : Declaration × Assembly}
    (making : Making facts docstring before made) :
    made.1.kind ∈ Kind.ofMembers ∧ made.1.WellComposed := by
  cases making with
  | callable info named after isCallable =>
      have callable : (Declaration.ofInfo info).kind = .method ∨
          (Declaration.ofInfo info).kind = .constructor := isCallable_iff.mp isCallable
      obtain ⟨isSignature, signatureComposed⟩ :=
        kinds_signature facts docstring facts.displayName named
      refine ⟨?_, Declaration.wellComposed_addSignature callable rfl
        (List.forall_mem_nil _) (List.forall_mem_nil _) isSignature
        signatureComposed⟩
      rw [Declaration.kind, info_addSignature]
      rcases callable with isMethod | isConstructor
      · rw [← Declaration.kind, isMethod]
        decide
      · rw [← Declaration.kind, isConstructor]
        decide
  | plain info after isMember notCallable =>
      refine ⟨isMember, Declaration.wellComposed_ofInfo ⟨?_, ?_⟩⟩
      · intro isMethod
        rw [isMethod] at notCallable
        cases notCallable
      · intro isConstructor
        rw [isConstructor] at notCallable
        cases notCallable

/-! ## Signatures that join -/

theorem kinds_mergeOverload
    {node : Declaration}
    (overload : Facts)
    (assembly : Assembly)
    (composed : node.WellComposed)
    (owns : node.kind ∈ Kind.ofOwners) :
    (assembly.mergeOverload node overload).1.WellComposed ∧
      (assembly.mergeOverload node overload).1.kind = node.kind := by
  have merging := merging_mergeOverload node overload assembly
  generalize assembly.mergeOverload node overload = result at merging ⊢
  cases merging with
  | warns =>
      exact ⟨composed, rfl⟩
  | joins position callable docstring first found isCallable =>
      obtain ⟨isMember, callableComposed⟩ :=
        composed.members callable (List.mem_of_getElem? found)
      obtain ⟨isSignature, signatureComposed⟩ :=
        kinds_signature overload docstring overload.displayName assembly
      have joined := callableComposed.addSignature (isCallable_iff.mp isCallable)
        isSignature signatureComposed
      cases node
      refine ⟨composed.of_children owns rfl rfl rfl ?_, rfl⟩
      intro child isChild
      rcases List.mem_or_eq_of_mem_set isChild with wasChild | rfl
      · exact composed.members child wasChild
      · refine ⟨?_, joined⟩
        rw [Declaration.kind, info_addSignature]
        exact isMember

/-- Whatever joins the members of a node, it stays well composed. -/
theorem kinds_mergeOverloads
    {node : Declaration}
    (overloads : List Facts)
    (assembly : Assembly)
    (composed : node.WellComposed)
    (owns : node.kind ∈ Kind.ofOwners) :
    (assembly.mergeOverloads overloads node).1.WellComposed ∧
      (assembly.mergeOverloads overloads node).1.kind = node.kind := by
  induction overloads generalizing node assembly with
  | nil =>
      exact ⟨composed, rfl⟩
  | cons overload rest inductionHypothesis =>
      obtain ⟨firstComposed, firstKind⟩ :=
        kinds_mergeOverload overload assembly composed owns
      obtain ⟨restComposed, restKind⟩ := inductionHypothesis
        (assembly.mergeOverload node overload).2 firstComposed
        (firstKind.symm ▸ owns)
      exact ⟨restComposed, restKind.trans firstKind⟩

end Assembly

/-! ## The walk -/

/-- That a walk leaves what may have members well composed and of its kind. -/
def Composes (before after : Owner × Assembly) : Prop :=
  before.1.node.kind ∈ Kind.ofOwners → before.1.node.WellComposed →
    after.1.node.WellComposed ∧ after.1.node.kind = before.1.node.kind

/-- A well composed member may join a well composed owner. -/
theorem wellComposed_addChild
    (usesGroups : Bool)
    {owner member : Declaration}
    (owns : owner.kind ∈ Kind.ofOwners)
    (ownerComposed : owner.WellComposed)
    (isMember : member.kind ∈ Kind.ofMembers)
    (memberComposed : member.WellComposed) :
    let joined := (enterGroup usesGroups member owner).addChild member.sortMembers
    joined.WellComposed ∧ joined.kind = owner.kind := by
  obtain ⟨groups, entered⟩ := exists_enterGroup_eq usesGroups member owner
  rw [entered]
  cases owner
  refine ⟨ownerComposed.of_children owns rfl rfl rfl ?_, rfl⟩
  refine List.forall_mem_append.mpr
    ⟨ownerComposed.members, List.forall_mem_singleton.mpr ⟨?_, ?_⟩⟩
  · rw [Declaration.kind_sortMembers]
    exact isMember
  · exact memberComposed.updateInfo rfl

theorem walkLaw_composes
    (options : Options)
    (usesGroups : Bool) :
    WalkLaw options usesGroups Composes where
  refl _ _ composed := ⟨composed, rfl⟩
  trans first second third firstStep secondStep owns composed := by
    obtain ⟨middleComposed, middleKind⟩ := firstStep owns composed
    obtain ⟨afterComposed, afterKind⟩ :=
      secondStep (middleKind.symm ▸ owns) middleComposed
    exact ⟨afterComposed, afterKind.trans middleKind⟩
  addsAlias _ _ _ _ composed := ⟨composed, rfl⟩
  waits _ _ _ _ composed := ⟨composed, rfl⟩
  declares here facts owner assembly inside steps owns composed := by
    obtain ⟨isMember, madeComposed⟩ :=
      (Assembly.making_declaration options here owner.node.kind facts
        (docstringAt here facts) assembly).kinds
    obtain ⟨filledComposed, filledKind⟩ :=
      steps (Kind.mem_ofOwners_of_member isMember) madeComposed
    have filledMember : inside.1.node.kind ∈ Kind.ofMembers :=
      filledKind.symm ▸ isMember
    obtain ⟨based, completed⟩ :=
      Assembly.exists_complete_eq facts (docstringAt here facts) inside.1
        inside.2
    obtain ⟨memberComposed, memberKind⟩ :=
      Assembly.kinds_mergeOverloads inside.1.overloads based filledComposed
        (Kind.mem_ofOwners_of_member filledMember)
    rw [← completed] at memberComposed memberKind
    exact wellComposed_addChild usesGroups owns composed
      (memberKind.symm ▸ filledMember) memberComposed

/-- The declarations of a project are composed as their kinds demand. -/
theorem wellComposed_assemble
    (options : Options)
    (modules : List ApiObject) :
    (assemble options modules).1.WellComposed ∧
      (assemble options modules).1.kind = .project := by
  obtain ⟨walkedComposed, walkedKind⟩ :=
    (walkLaw_composes options
      (ApiObject.anyMentions groupDecorator modules)).walkAll modules {}
        ({ node := emptyRoot options }, {}) List.mem_cons_self
        (Declaration.wellComposed_ofInfo ⟨nofun, nofun⟩)
  have isProject := walkedKind.trans (rfl : (emptyRoot options).kind = .project)
  obtain ⟨mergedComposed, mergedKind⟩ :=
    Assembly.kinds_mergeOverloads _ _ walkedComposed
      (isProject ▸ List.mem_cons_self)
  exact ⟨mergedComposed, mergedKind.trans isProject⟩

/-- After inheriting they are still composed so. -/
theorem wellComposed_inherited
    (options : Options)
    (modules : List ApiObject) :
    (inherited options modules).root.WellComposed ∧
      (inherited options modules).root.kind = .project := by
  obtain ⟨assembledComposed, assembledKind⟩ := wellComposed_assemble options modules
  obtain ⟨composed, sameKind⟩ := Hierarchy.wellComposed_flowAlong assembledComposed
    (assembledKind ▸ List.mem_cons_self) (assemble options modules).2.supply
    (Hierarchy.schedule (assemble options modules).2.hierarchy.resolvedEdges)
  exact ⟨composed, sameKind.trans assembledKind⟩

/-! ## The converted project -/

/-- Finishing changes no kind. -/
theorem kind_finishInfo
    (resolved : Resolved)
    (lookup : String → Option DeclId)
    (info : Info) :
    (finishInfo resolved lookup info).kind = info.kind := by
  obtain ⟨type, appliedEq⟩ := exists_applyInfo_eq resolved info
  rw [finishInfo, appliedEq]
  rfl

/--
In a converted project the root alone is a project.  Members are enumerations, values
of these, classes, constructors, properties and methods.  Signatures are call
signatures, and exactly methods and constructors have them; parameters are
parameters, and only call signatures have them.  Neither call signatures nor
parameters have members, and parameters have no signatures.
-/
theorem converted_nodes_composed
    {options : Options}
    {parser : TypeParser}
    {modules : List ApiObject}
    {conversion : Conversion}
    (converted : convertModules options parser modules = .ok conversion) :
    conversion.project.root.kind = .project ∧
      (∀ node ∈ conversion.project.root.owned, node.kind ≠ .project) ∧
      ∀ node ∈ conversion.project.root.nodes, Composed node := by
  obtain ⟨answers, finished⟩ := exists_finished converted
  obtain ⟨inheritedComposed, isProject⟩ := wellComposed_inherited options modules
  have keeps := kind_finishInfo (resolvedTypes options modules answers)
    (declaredAs options modules)
  have composed : conversion.project.root.WellComposed := by
    rw [finished.root_eq]
    exact ((Declaration.wellComposed_mapInfo_iff keeps _).mpr
      inheritedComposed).updateInfo rfl
  refine ⟨?_, fun node isOwned => composed.ne_project_of_owned isOwned, composed⟩
  rw [finished.root_eq, Declaration.kind_sortMembers, Declaration.kind_mapInfo keeps,
    isProject]

/-- A class that inherits a method still has nothing but members of these kinds. -/
theorem converted_nodes_composed_of_override :
    ∃ conversion,
      convertModules {} TypeParser.silent overridingModules = .ok conversion ∧
        conversion.project.root.kind = .project ∧
        (∀ node ∈ conversion.project.root.owned, node.kind ≠ .project) ∧
        ∀ node ∈ conversion.project.root.nodes, Composed node := by
  have inherits : (inherited {} overridingModules).failure = none := by
    decide +kernel
  obtain ⟨conversion, converted⟩ := exists_silent_conversion inherits
  exact ⟨conversion, converted, converted_nodes_composed converted⟩

end ApiTree.Convert
