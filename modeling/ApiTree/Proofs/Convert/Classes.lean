import ApiTree.Proofs.Convert.Finishing
import ApiTree.Proofs.Convert.Numbering
import ApiTree.Proofs.Decl.Targets
import ApiTree.Proofs.Hierarchy.Links

namespace ApiTree.Convert

open ApiTree.Decl
open ApiTree.Dump (ApiObject Argument Docstring Facts)
open ApiTree.Interp (TypeParser)

/-!
# Classes in a converted project

While declarations are assembled nothing is linked or inherited, types point
nowhere, and only the numbers of classes are entered into the hierarchy.  So the
edges along which members are inherited lead from classes to classes of the
assembled tree.
-/

/-- That nothing extends or is extended. -/
def Unlinked (info : Info) : Prop :=
  info.extendedTypes = [] ∧ info.extendedBy = []

/-- That nothing is linked or inherited, and that the type points nowhere. -/
structure Plain (info : Info) : Prop where
  unlinked : Unlinked info
  own : info.inheritedFrom = none
  untargeted : info.UntargetedType

/-- A declaration without links is plain if its type is. -/
theorem plain_of_type
    {info : Info}
    (unlinked : Unlinked info)
    (own : info.inheritedFrom = none)
    {type : TypeExpr}
    (untargeted : type.Untargeted)
    (typeEq : info.type = some type) :
    Plain info := by
  refine ⟨unlinked, own, ?_⟩
  intro other otherEq
  obtain rfl := Option.some.inj (typeEq.symm.trans otherEq)
  exact untargeted

theorem Plain.links_eq_nil
    {info : Info}
    (plain : Plain info) :
    info.links = [] := by
  rw [Info.links, plain.unlinked.1, plain.unlinked.2, plain.own]
  rfl

/-- That a class of a number is among the nodes. -/
def HasClass
    (declaration : Declaration)
    (number : DeclId) :
    Prop :=
  ∃ info ∈ declaration.infos, info.id = number ∧ info.kind = .classDecl

/-- That a number is entered into a hierarchy, as a class or as what extends one. -/
def Enrolled
    (hierarchy : Hierarchy)
    (number : DeclId) :
    Prop :=
  (∃ name, (name, number) ∈ hierarchy.classes) ∨
    ∃ edge ∈ hierarchy.edges, edge.descendant = number

/-! ## Changes that keep classes -/

/-- A class is one of its own nodes. -/
theorem hasClass_self
    {declaration : Declaration}
    (isClass : declaration.kind = .classDecl) :
    HasClass declaration declaration.id := by
  refine ⟨declaration.info, ?_, rfl, isClass⟩
  rw [Declaration.mem_infos_iff]
  exact ⟨declaration, by simp [Declaration.nodes_eq_cons_owned], rfl⟩

/-- More nodes have the same classes and possibly more. -/
theorem HasClass.mono
    {before after : Declaration}
    {number : DeclId}
    (hasClass : HasClass before number)
    (included : before.infos ⊆ after.infos) :
    HasClass after number := by
  obtain ⟨info, member, isNumber, isClass⟩ := hasClass
  exact ⟨info, included member, isNumber, isClass⟩

/-- A change at the top that keeps number and kind keeps classes. -/
theorem HasClass.updateInfo
    {change : Info → Info}
    {declaration : Declaration}
    {number : DeclId}
    (hasClass : HasClass declaration number)
    (keepsId : (change declaration.info).id = declaration.info.id)
    (keepsKind : (change declaration.info).kind = declaration.info.kind) :
    HasClass (declaration.updateInfo change) number := by
  obtain ⟨info, member, isNumber, isClass⟩ := hasClass
  cases declaration with
  | node top children signatures parameters =>
      rw [Declaration.infos_node] at member
      rcases List.mem_cons.mp member with rfl | below
      · refine ⟨change info, ?_, keepsId.trans isNumber,
          keepsKind.trans isClass⟩
        rw [Declaration.updateInfo, Declaration.infos_node]
        exact List.mem_cons_self
      · refine ⟨info, ?_, isNumber, isClass⟩
        rw [Declaration.updateInfo, Declaration.infos_node]
        exact List.mem_cons_of_mem _ below

theorem infos_addChild_subset
    (declaration child : Declaration) :
    declaration.infos ⊆ (declaration.addChild child).infos ∧
      child.infos ⊆ (declaration.addChild child).infos := by
  cases declaration
  constructor <;> intro info member <;>
    simp only [Declaration.addChild, Declaration.infos_node,
      List.flatMap_append, List.flatMap_singleton, List.mem_cons,
      List.mem_append] at member ⊢
  · rcases member with isTop | inChildren | inRest
    · exact .inl isTop
    · exact .inr (.inl (.inl inChildren))
    · exact .inr (.inr inRest)
  · exact .inr (.inl (.inr member))

theorem infos_subset_addSignature
    (declaration signature : Declaration) :
    declaration.infos ⊆ (declaration.addSignature signature).infos := by
  cases declaration
  intro info member
  simp only [Declaration.addSignature, Declaration.infos_node,
    List.flatMap_append, List.mem_cons, List.mem_append] at member ⊢
  rcases member with isTop | inChildren | inSignatures | inParameters
  · exact .inl isTop
  · exact .inr (.inl inChildren)
  · exact .inr (.inr (.inl (.inl inSignatures)))
  · exact .inr (.inr (.inr inParameters))

/-- A property holds with a member added if it holds before and in the member. -/
theorem everywhere_addChild
    {holds : Info → Prop}
    {declaration child : Declaration}
    (everywhere : declaration.Everywhere holds)
    (childHolds : child.Everywhere holds) :
    (declaration.addChild child).Everywhere holds := by
  cases declaration
  obtain ⟨atTop, inChildren, inSignatures, inParameters⟩ :=
    Declaration.everywhere_iff.mp everywhere
  refine Declaration.everywhere_iff.mpr ⟨atTop, ?_, inSignatures, inParameters⟩
  intro other member
  rcases List.mem_append.mp member with wasChild | isNew
  · exact inChildren other wasChild
  · exact List.mem_singleton.mp isNew ▸ childHolds

theorem everywhere_addSignature
    {holds : Info → Prop}
    {declaration signature : Declaration}
    (everywhere : declaration.Everywhere holds)
    (signatureHolds : signature.Everywhere holds) :
    (declaration.addSignature signature).Everywhere holds := by
  cases declaration
  obtain ⟨atTop, inChildren, inSignatures, inParameters⟩ :=
    Declaration.everywhere_iff.mp everywhere
  refine Declaration.everywhere_iff.mpr ⟨atTop, inChildren, ?_, inParameters⟩
  intro other member
  rcases List.mem_append.mp member with wasSignature | isNew
  · exact inSignatures other wasSignature
  · exact List.mem_singleton.mp isNew ▸ signatureHolds

/-- A signature that joins a declaration is found on no path. -/
theorem names_addSignature_iff
    (declaration signature : Declaration)
    {name : String}
    {number : DeclId} :
    (declaration.addSignature signature).Names name number ↔
      declaration.Names name number := by
  cases declaration
  rw [Declaration.names_iff, Declaration.names_iff]
  rfl

/-- A change of one member that names the same changes nothing that is named. -/
theorem namesBelow_set_iff
    {node own changed : Declaration}
    {position : Nat}
    {name : String}
    {number : DeclId}
    (found : node.children[position]? = some own)
    (same : changed.Names name number ↔ own.Names name number) :
    (node.setChildren (node.children.set position changed)).NamesBelow
        name number ↔
      node.NamesBelow name number := by
  obtain ⟨before, after, shape, -, setShape⟩ := Declaration.exists_around found
  simp only [Declaration.NamesBelow, Declaration.children_setChildren, setShape]
  rw [shape]
  simp only [List.mem_append, List.mem_cons, or_and_right, exists_or,
    exists_eq_left, same]

theorem everywhere_ofInfo
    {holds : Info → Prop}
    {info : Info}
    (holdsHere : holds info) :
    (Declaration.ofInfo info).Everywhere holds :=
  Declaration.everywhere_iff.mpr
    ⟨holdsHere, by simp [Declaration.ofInfo], by simp [Declaration.ofInfo],
      by simp [Declaration.ofInfo]⟩

theorem everywhere_enterGroup
    {usesGroups : Bool}
    {member owner : Declaration}
    (everywhere : owner.Everywhere Plain) :
    (enterGroup usesGroups member owner).Everywhere Plain := by
  obtain ⟨atTop, -⟩ := Declaration.everywhere_iff.mp everywhere
  unfold enterGroup
  split
  · exact everywhere
  · split
    · exact everywhere.updateInfo
        ⟨atTop.unlinked, atTop.own, atTop.untargeted⟩
    · exact everywhere

theorem HasClass.enterGroup
    {usesGroups : Bool}
    {member owner : Declaration}
    {number : DeclId}
    (hasClass : HasClass owner number) :
    HasClass (enterGroup usesGroups member owner) number := by
  unfold Convert.enterGroup
  split
  · exact hasClass
  · split
    · exact hasClass.updateInfo rfl rfl
    · exact hasClass

namespace Assembly

/-! ## Steps that leave classes and names alone -/

/-- That only numbers, types, symbols and warnings change in what was collected. -/
def Adds (before after : Assembly) : Prop :=
  ∃ supply pending symbols warnings,
    after =
      { before with
        supply := supply
        pending := pending
        symbols := symbols
        warnings := warnings }

namespace Adds

theorem refl (assembly : Assembly) : Adds assembly assembly :=
  ⟨assembly.supply, assembly.pending, assembly.symbols, assembly.warnings, rfl⟩

theorem trans
    {first second third : Assembly}
    (firstStep : Adds first second)
    (secondStep : Adds second third) :
    Adds first third := by
  obtain ⟨_, _, _, _, rfl⟩ := firstStep
  obtain ⟨supply, pending, symbols, warnings, rfl⟩ := secondStep
  exact ⟨supply, pending, symbols, warnings, rfl⟩

variable {before after : Assembly}

theorem hierarchy_eq
    (adds : Adds before after) :
    after.hierarchy = before.hierarchy := by
  obtain ⟨_, _, _, _, rfl⟩ := adds
  rfl

theorem declared_eq
    (adds : Adds before after) :
    after.declared = before.declared := by
  obtain ⟨_, _, _, _, rfl⟩ := adds
  rfl

theorem docstrings_eq
    (adds : Adds before after) :
    after.docstrings = before.docstrings := by
  obtain ⟨_, _, _, _, rfl⟩ := adds
  rfl

end Adds

theorem adds_addType
    (expression : Option String)
    (assembly : Assembly) :
    Adds assembly (assembly.addType expression).2 :=
  ⟨_, _, _, _, rfl⟩

theorem adds_takeId (assembly : Assembly) : Adds assembly assembly.takeId.2 :=
  ⟨_, _, _, _, rfl⟩

theorem adds_recordSignature
    (file : String)
    (signature : Declaration)
    (assembly : Assembly) :
    Adds assembly (assembly.recordSignature file signature) := by
  have each (nodes : List Declaration) (recorded : Assembly) :
      Adds recorded
        (nodes.foldl
          (fun assembly node => assembly.recordSymbol node.id node.name file)
          recorded) := by
    induction nodes generalizing recorded with
    | nil =>
        exact .refl recorded
    | cons first rest inductionHypothesis =>
        exact Adds.trans ⟨_, _, _, _, rfl⟩ (inductionHypothesis _)
  exact each _ assembly

/-- The placeholder of an expression is a bare name. -/
theorem untargeted_addType
    (expression : Option String)
    (assembly : Assembly) :
    (assembly.addType expression).1.Untargeted :=
  TypeExpr.untargeted_named_iff.mpr ⟨rfl, by simp⟩

/-- Parameters are made apart from classes and names, and they are plain. -/
theorem parameters_apart
    (docstring : Docstring)
    (arguments : List Argument)
    (assembly : Assembly) :
    Adds assembly (assembly.parameters docstring arguments).2 ∧
      ∀ parameter ∈ (assembly.parameters docstring arguments).1,
        parameter.Everywhere Plain := by
  induction arguments generalizing assembly with
  | nil =>
      exact ⟨.refl assembly, fun parameter member => by cases member⟩
  | cons argument rest inductionHypothesis =>
      obtain ⟨restAdds, restPlain⟩ :=
        inductionHypothesis (assembly.parameter docstring argument).2
      have firstAdds : Adds assembly (assembly.parameter docstring argument).2 :=
        (adds_takeId assembly).trans (adds_addType argument.type _)
      refine ⟨firstAdds.trans restAdds, ?_⟩
      intro parameter member
      rcases List.mem_cons.mp member with rfl | inRest
      · exact everywhere_ofInfo
          (plain_of_type ⟨rfl, rfl⟩ rfl
            (untargeted_addType argument.type assembly.takeId.2) rfl)
      · exact restPlain parameter inRest

theorem signature_apart
    (facts : Facts)
    (docstring : Docstring)
    (name : String)
    (assembly : Assembly) :
    Adds assembly (assembly.signature facts docstring name).2 ∧
      (assembly.signature facts docstring name).1.Everywhere Plain := by
  obtain ⟨adds, parametersPlain⟩ :=
    parameters_apart docstring (facts.arguments.filter (!·.isReceiver))
      (assembly.takeId.2.addType facts.returnType).2
  constructor
  · exact ((adds_takeId assembly).trans
      (adds_addType facts.returnType _)).trans adds
  · refine Declaration.everywhere_iff.mpr ⟨?_, ?_, ?_, parametersPlain⟩
    · exact plain_of_type ⟨rfl, rfl⟩ rfl
        (untargeted_addType facts.returnType assembly.takeId.2) rfl
    · intro child member
      cases member
    · intro signature member
      cases member

/-- What making the declaration of an object does: it makes its name known. -/
structure Declares
    (facts : Facts)
    (before : Assembly)
    (node : Declaration)
    (after : Assembly) :
    Prop where
  id_eq : node.id = before.supply.next
  name_eq : node.name = facts.displayName
  children_eq : node.children = []
  plain : node.Everywhere Plain
  hierarchy_eq : after.hierarchy = before.hierarchy
  declared_eq : after.declared = (node.name, node.id) :: before.declared

theorem shapeType_apart
    (shape : Shape)
    (assembly : Assembly) :
    Adds assembly (assembly.shapeType shape).2 ∧
      ∀ type, (assembly.shapeType shape).1 = some type → type.Untargeted := by
  cases shape with
  | constant value =>
      refine ⟨.refl assembly, ?_⟩
      rintro type ⟨⟩ reference isReference
      cases isReference
  | property expression =>
      refine ⟨adds_addType expression assembly, ?_⟩
      rintro type ⟨⟩
      exact untargeted_addType expression assembly
  | other kind =>
      refine ⟨.refl assembly, ?_⟩
      rintro type ⟨⟩

/-- A declaration is made apart from the hierarchy, and it is plain. -/
theorem declares_declaration
    (options : Options)
    (site : Site)
    (ownerKind : Kind)
    (facts : Facts)
    (docstring : Docstring)
    (assembly : Assembly) :
    Declares facts assembly
      (assembly.declaration options site ownerKind facts docstring).1
      (assembly.declaration options site ownerKind facts docstring).2 := by
  obtain ⟨typed, untargeted⟩ :=
    shapeType_apart (Shape.of ownerKind facts) assembly
  have next :
      (assembly.shapeType (Shape.of ownerKind facts)).2.supply.next =
        assembly.supply.next := by
    rw [supply_shapeType]
  simp only [declaration]
  split
  · have signed (named : Assembly) :=
      signature_apart facts docstring facts.displayName named
    have recorded (file : String) (signature : Declaration) (named : Assembly) :=
      adds_recordSignature file signature named
    exact
      { id_eq := next
        name_eq := rfl
        children_eq := rfl
        plain := everywhere_addSignature
          (everywhere_ofInfo ⟨⟨rfl, rfl⟩, rfl, untargeted⟩) (signed _).2
        hierarchy_eq :=
          ((signed _).1.trans (recorded _ _ _)).hierarchy_eq.trans
            typed.hierarchy_eq
        declared_eq :=
          ((signed _).1.trans (recorded _ _ _)).declared_eq.trans
            (congrArg _ typed.declared_eq) }
  · exact
      { id_eq := next
        name_eq := rfl
        children_eq := rfl
        plain := everywhere_ofInfo ⟨⟨rfl, rfl⟩, rfl, untargeted⟩
        hierarchy_eq := typed.hierarchy_eq
        declared_eq := congrArg _ typed.declared_eq }

/-- What merging a signature into a declaration leaves as it is. -/
structure Merges
    (node : Declaration)
    (assembly : Assembly)
    (merged : Declaration × Assembly) :
    Prop where
  info_eq : merged.1.info = node.info
  included : node.infos ⊆ merged.1.infos
  plain : node.Everywhere Plain → merged.1.Everywhere Plain
  namesBelow_iff : ∀ name number,
    merged.1.NamesBelow name number ↔ node.NamesBelow name number
  adds : Adds assembly merged.2

/-- A signature that joins a member leaves these things as they are. -/
theorem merges_mergeOverload
    (node : Declaration)
    (overload : Facts)
    (assembly : Assembly) :
    Merges node assembly (assembly.mergeOverload node overload) := by
  simp only [mergeOverload]
  split
  · exact ⟨rfl, List.Subset.refl _, fun plain => plain, fun _ _ => Iff.rfl,
      ⟨_, _, _, _, rfl⟩⟩
  · rename_i position callable found
    have isCallable := getElem?_of_callable found
    have leads : node.descendant? [position] = some callable :=
      Declaration.descendant?_cons_eq_some_iff.mpr ⟨callable, isCallable, rfl⟩
    obtain ⟨signed, signaturePlain⟩ :=
      signature_apart overload (assembly.overloadDocstring overload callable.id)
        overload.displayName assembly
    refine ⟨by simp, ?_, ?_, ?_, ?_⟩
    · obtain ⟨before, after, shape, replacedShape⟩ :=
        Declaration.exists_infos_around leads
      rw [← Declaration.replaceAt_nil callable (callable.addSignature _),
        ← Declaration.replaceAt_cons isCallable, replacedShape, shape]
      intro info member
      rcases List.mem_append.mp member with inBefore | inRest
      · exact List.mem_append_left _ inBefore
      · refine List.mem_append_right _ ?_
        rcases List.mem_append.mp inRest with inCallable | inAfter
        · exact List.mem_append_left _
            (infos_subset_addSignature callable _ inCallable)
        · exact List.mem_append_right _ inAfter
    · intro plain
      rw [← Declaration.replaceAt_nil callable (callable.addSignature _),
        ← Declaration.replaceAt_cons isCallable]
      exact plain.replaceAt leads
        (everywhere_addSignature (plain.descendant? leads) signaturePlain)
    · intro name number
      exact namesBelow_set_iff isCallable (names_addSignature_iff callable _)
    · exact signed.trans (adds_recordSignature _ _ _)

theorem merges_mergeOverloads
    (overloads : List Facts)
    (node : Declaration)
    (assembly : Assembly) :
    Merges node assembly (assembly.mergeOverloads overloads node) := by
  induction overloads generalizing node assembly with
  | nil =>
      exact ⟨rfl, List.Subset.refl _, fun plain => plain, fun _ _ => Iff.rfl,
        .refl assembly⟩
  | cons overload rest inductionHypothesis =>
      have first := merges_mergeOverload node overload assembly
      have others :=
        inductionHypothesis (assembly.mergeOverload node overload).1
          (assembly.mergeOverload node overload).2
      exact
        { info_eq := others.info_eq.trans first.info_eq
          included := List.Subset.trans first.included others.included
          plain := fun plain => others.plain (first.plain plain)
          namesBelow_iff := fun name number =>
            (others.namesBelow_iff name number).trans
              (first.namesBelow_iff name number)
          adds := first.adds.trans others.adds }

/-- The bases of a class are entered under the number of the class. -/
theorem enrolled_addBases
    {id number : DeclId}
    {bases : List String}
    {assembly : Assembly}
    (enrolled : Enrolled (assembly.addBases id bases).hierarchy number) :
    Enrolled assembly.hierarchy number ∨ number = id := by
  have each (names : List String) (hierarchy : Hierarchy)
      (enrolled : Enrolled
        (names.foldl
          (fun hierarchy base =>
            hierarchy.addEdge (ApiTree.Resolve.baseName base) id)
          hierarchy) number) :
      Enrolled hierarchy number ∨ number = id := by
    induction names generalizing hierarchy with
    | nil =>
        exact .inl enrolled
    | cons first rest inductionHypothesis =>
        rcases inductionHypothesis _ enrolled with
            (isClass | ⟨edge, isEdge, isNumber⟩) | isId
        · exact .inl (.inl isClass)
        · rcases List.mem_append.mp isEdge with wasEdge | isNew
          · exact .inl (.inr ⟨edge, wasEdge, isNumber⟩)
          · obtain rfl := List.mem_singleton.mp isNew
            exact .inr isNumber.symm
        · exact .inr isId
  exact each bases assembly.hierarchy enrolled

/-- A class is entered under its number. -/
theorem enrolled_addClass
    {id number : DeclId}
    {name : String}
    {assembly : Assembly}
    (enrolled : Enrolled (assembly.addClass id name).hierarchy number) :
    Enrolled assembly.hierarchy number ∨ number = id := by
  rcases enrolled with ⟨known, isClass⟩ | isEdge
  · rcases List.mem_cons.mp isClass with isNew | wasClass
    · exact .inr (congrArg Prod.snd isNew)
    · exact .inl (.inl ⟨known, wasClass⟩)
  · exact .inl (.inr isEdge)

/-- What completing a declaration enters into the hierarchy is its own number. -/
theorem enrolled_complete
    {facts : Facts}
    {docstring : Docstring}
    {owner : Owner}
    {assembly : Assembly}
    {number : DeclId}
    (enrolled :
      Enrolled (assembly.complete facts docstring owner).2.hierarchy number) :
    Enrolled assembly.hierarchy number ∨
      (owner.node.kind = .classDecl ∧ number = owner.node.id) := by
  have merges (based : Assembly) :=
    merges_mergeOverloads owner.overloads owner.node based
  by_cases isClass : owner.node.kind = .classDecl
  · have entered :
        Enrolled
          (((assembly.addBases owner.node.id facts.bases).mergeOverloads
              owner.overloads owner.node).2.addClass owner.node.id
                facts.name).hierarchy number := by
      simp only [complete, isClass, beq_self_eq_true, ↓reduceIte] at enrolled
      split at enrolled <;> exact enrolled
    rcases enrolled_addClass entered with merged | isNumber
    · rw [(merges _).adds.hierarchy_eq] at merged
      rcases enrolled_addBases merged with wasEnrolled | isNumber
      · exact .inl wasEnrolled
      · exact .inr ⟨isClass, isNumber⟩
    · exact .inr ⟨isClass, isNumber⟩
  · have merged :
        Enrolled
          (assembly.mergeOverloads owner.overloads owner.node).2.hierarchy
            number := by
      simp only [complete, beq_eq_false_iff_ne.mpr isClass, Bool.false_eq_true,
        ↓reduceIte] at enrolled
      split at enrolled <;> exact enrolled
    rw [(merges _).adds.hierarchy_eq] at merged
    exact .inl merged

/-- The declaration that is completed is the merged one. -/
theorem exists_merges_complete
    (facts : Facts)
    (docstring : Docstring)
    (owner : Owner)
    (assembly : Assembly) :
    ∃ based merged, Merges owner.node based merged ∧
      (assembly.complete facts docstring owner).1 = merged.1 := by
  simp only [complete]
  exact ⟨_, _, merges_mergeOverloads owner.overloads owner.node _, rfl⟩

end Assembly

/-- What a walk keeps: all is plain, and what is enrolled are classes. -/
structure Enrolls (before after : Owner × Assembly) : Prop where
  plain : before.1.node.Everywhere Plain → after.1.node.Everywhere Plain
  keeps : ∀ number, HasClass before.1.node number →
    HasClass after.1.node number
  enrolled : ∀ number, Enrolled after.2.hierarchy number →
    Enrolled before.2.hierarchy number ∨ HasClass after.1.node number

/-- Every walk keeps this. -/
theorem walkLaw_enrolls
    (options : Options)
    (usesGroups : Bool) :
    WalkLaw options usesGroups Enrolls where
  refl _ :=
    ⟨fun plain => plain, fun _ hasClass => hasClass,
      fun _ enrolled => .inl enrolled⟩
  trans first second third firstStep secondStep := by
    refine
      ⟨fun plain => secondStep.plain (firstStep.plain plain),
        fun number hasClass =>
          secondStep.keeps number (firstStep.keeps number hasClass), ?_⟩
    intro number enrolled
    rcases secondStep.enrolled number enrolled with wasEnrolled | hasClass
    · rcases firstStep.enrolled number wasEnrolled with earlier | hadClass
      · exact .inl earlier
      · exact .inr (secondStep.keeps number hadClass)
    · exact .inr hasClass
  addsAlias _ _ _ :=
    ⟨fun plain => plain, fun _ hasClass => hasClass,
      fun _ enrolled => .inl enrolled⟩
  waits _ _ _ :=
    ⟨fun plain => plain, fun _ hasClass => hasClass,
      fun _ enrolled => .inl enrolled⟩
  declares here facts owner assembly inside steps := by
    have opened :=
      Assembly.declares_declaration options here owner.node.kind facts
        (docstringAt here facts) assembly
    obtain ⟨based, merged, merges, completed⟩ :=
      Assembly.exists_merges_complete facts (docstringAt here facts) inside.1
        inside.2
    -- Completing may only add to the declaration, so the classes inside stay.
    have childHas (number : DeclId) (hasClass : HasClass inside.1.node number) :
        HasClass
          (inside.2.complete facts (docstringAt here facts)
            inside.1).1.sortMembers number := by
      rw [completed]
      exact (hasClass.mono merges.included).updateInfo rfl rfl
    have joins := infos_addChild_subset
      (enterGroup usesGroups
        (inside.2.complete facts (docstringAt here facts) inside.1).1 owner.node)
      (inside.2.complete facts (docstringAt here facts) inside.1).1.sortMembers
    refine ⟨?_, ?_, ?_⟩
    · intro plain
      have insidePlain := steps.plain opened.plain
      have childPlain := merges.plain insidePlain
      rw [← completed] at childPlain
      obtain ⟨atTop, -⟩ := Declaration.everywhere_iff.mp childPlain
      exact everywhere_addChild (everywhere_enterGroup plain)
        (childPlain.updateInfo ⟨atTop.unlinked, atTop.own, atTop.untargeted⟩)
    · intro number hasClass
      exact hasClass.enterGroup.mono joins.1
    · intro number enrolled
      rcases Assembly.enrolled_complete enrolled with
          wasEnrolled | ⟨isClass, rfl⟩
      · rcases steps.enrolled number wasEnrolled with earlier | hasClass
        · exact .inl (opened.hierarchy_eq ▸ earlier)
        · exact .inr ((childHas number hasClass).mono joins.2)
      · exact .inr ((childHas _ (hasClass_self isClass)).mono joins.2)

/-- The assembled tree is plain, and what is enrolled are classes. -/
theorem enrolls_assemble
    (options : Options)
    (modules : List ApiObject) :
    (assemble options modules).1.Everywhere Plain ∧
      ∀ number, Enrolled (assemble options modules).2.hierarchy number →
        HasClass (assemble options modules).1 number := by
  have walked :=
    (walkLaw_enrolls options
      (ApiObject.anyMentions groupDecorator modules)).walkAll modules {}
        ({ node := emptyRoot options }, {})
  have merges := fun overloads node assembly =>
    Assembly.merges_mergeOverloads overloads node assembly
  have startPlain : (emptyRoot options).Everywhere Plain := by
    refine everywhere_ofInfo ⟨⟨rfl, rfl⟩, rfl, ?_⟩
    rintro type ⟨⟩
  simp only [assemble]
  refine ⟨(merges _ _ _).plain (walked.plain startPlain), ?_⟩
  intro number enrolled
  rw [(merges _ _ _).adds.hierarchy_eq] at enrolled
  rcases walked.enrolled number enrolled with (⟨name, isClass⟩ | isEdge) | hasClass
  · cases isClass
  · obtain ⟨edge, isEdge, -⟩ := isEdge
    cases isEdge
  · exact hasClass.mono (merges _ _ _).included

/-! ## Edges between classes -/

/-- Both ends of a resolved edge are enrolled. -/
theorem enrolled_of_mem_resolvedEdges
    {hierarchy : Hierarchy}
    {edge : Edge}
    (isEdge : edge ∈ hierarchy.resolvedEdges) :
    Enrolled hierarchy edge.1 ∧ Enrolled hierarchy edge.2 := by
  have each :
      ∀ one ∈ hierarchy.resolvedEdges,
        Enrolled hierarchy one.1 ∧ Enrolled hierarchy one.2 := by
    refine List.foldlRecOn
      (motive := fun edges : List Edge => ∀ one ∈ edges,
        Enrolled hierarchy one.1 ∧ Enrolled hierarchy one.2)
      hierarchy.edges _ ?_ ?_
    · intro one member
      cases member
    · intro edges enrolled recorded isRecorded one member
      cases looked : hierarchy.class? recorded.ancestor with
      | none =>
          simp only [looked] at member
          exact enrolled one member
      | some ancestor =>
          simp only [looked, Hierarchy.insertEdge] at member
          split at member
          · exact enrolled one member
          · rcases List.mem_append.mp member with wasEdge | isNew
            · exact enrolled one wasEdge
            · obtain rfl := List.mem_singleton.mp isNew
              refine ⟨.inl ⟨recorded.ancestor, ?_⟩,
                .inr ⟨recorded, isRecorded, rfl⟩⟩
              obtain ⟨before, after, shape, -⟩ :=
                List.lookup_eq_some_iff.mp looked
              rw [shape]
              simp
  exact each edge isEdge

/-- The edges of the assembled declarations lead from classes to classes. -/
theorem classEnds_assemble
    (options : Options)
    (modules : List ApiObject) :
    Hierarchy.ClassEnds (assemble options modules).1
      (assemble options modules).2.hierarchy.resolvedEdges := by
  have distinct := (numberedFrom_assemble options modules).distinct
  have classOf (number : DeclId)
      (enrolled : Enrolled (assemble options modules).2.hierarchy number)
      (path : Path) (found : Declaration)
      (looked : (assemble options modules).1.childPaths.lookup number =
        some path)
      (leads : (assemble options modules).1.descendant? path = some found) :
      found.kind = .classDecl := by
    obtain ⟨info, member, isNumber, isClass⟩ :=
      (enrolls_assemble options modules).2 number enrolled
    obtain ⟨declared, declaredLeads, sameId⟩ :=
      Declaration.exists_of_lookup_childPaths looked
    obtain rfl : found = declared :=
      Option.some.inj (leads.symm.trans declaredLeads)
    have foundMember : found.info ∈ (assemble options modules).1.infos := by
      refine Declaration.infos_subset_of_descendant? leads ?_
      rw [Declaration.mem_infos_iff]
      exact ⟨found, by simp [Declaration.nodes_eq_cons_owned], rfl⟩
    rw [Declaration.ids_eq_map_infos] at distinct
    have sameInfo : found.info = info :=
      List.inj_on_of_nodup_map distinct foundMember member
        (sameId.trans isNumber.symm)
    rw [Declaration.kind, sameInfo]
    exact isClass
  rintro path found ⟨edge, isEdge, ancestorLooked | descendantLooked⟩ leads
  · exact classOf edge.1 (enrolled_of_mem_resolvedEdges isEdge).1 path found
      ancestorLooked leads
  · exact classOf edge.2 (enrolled_of_mem_resolvedEdges isEdge).2 path found
      descendantLooked leads

end ApiTree.Convert
