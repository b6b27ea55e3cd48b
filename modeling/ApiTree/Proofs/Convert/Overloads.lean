import ApiTree.Proofs.Convert.Composition
import ApiTree.Proofs.Convert.Recorded
import ApiTree.Proofs.Convert.Roles

namespace ApiTree.Convert

open ApiTree.Decl
open ApiTree.Dump (ApiObject Argument Docstring Facts)

/-!
# Accounting for alternative signatures

Each owner gets one member for each declaration among its objects, and when these are
complete the alternative signatures that waited join them or are warned about.  So
the tree tells what became of each of them: it is one signature of one member, behind
the member's own and in the order of the dump, or it is one warning.  No alternative
signature makes a member, so signatures and warnings together are as many as callables
and alternative signatures.
-/

/-- A member with the object that made it and the warnings about what is inside. -/
structure Part where
  object : ApiObject
  node : Declaration
  warnings : List String

/-- The signature of its own that a member has if it is callable. -/
def ownSignature
    (facts : Facts)
    (node : Declaration) :
    List Facts :=
  if node.kind.isCallable then [facts] else []

theorem ownSignature_of_callable
    {facts : Facts}
    {node : Declaration}
    (isCallable : node.kind.isCallable = true) :
    ownSignature facts node = [facts] :=
  if_pos isCallable

theorem ownSignature_of_not_callable
    {facts : Facts}
    {node : Declaration}
    (notCallable : node.kind.isCallable = false) :
    ownSignature facts node = [] :=
  if_neg (ne_true_of_eq_false notCallable)

/--
That a declaration accounts, with a list of warnings, for the objects inside it.  Each
declaration among the objects made the member at its place, and nothing else made any.
The signatures of a member are its own and then those of the alternative signatures
that wait for it.  The warnings are those about what is inside the members and then one
for each alternative signature that waits for none.
-/
inductive AccountsFor : List ApiObject → Declaration → List String → Prop where
  | intro
      {objects : List ApiObject}
      {node : Declaration}
      (parts : List Part)
      (objects_eq : declaringAmong objects = parts.map Part.object)
      (children_eq : node.children = parts.map Part.node)
      (signed : ∀ position part, parts[position]? = some part →
        part.node.name = part.object.facts.displayName ∧
          List.Forall₂ IsSignatureOf
            (ownSignature part.object.facts part.node ++
              (waitingAmong objects).filter (joinsAt node.children position))
            part.node.signatures)
      (inside : ∀ part ∈ parts,
        AccountsFor part.object.members part.node part.warnings) :
      AccountsFor objects node
        (parts.flatMap Part.warnings ++ warningsAt node (waitingAmong objects))

/-- A declaration accounts for what is inside by its name and its members. -/
theorem AccountsFor.of_children_eq
    {objects : List ApiObject}
    {before after : Declaration}
    {warnings : List String}
    (accounts : AccountsFor objects before warnings)
    (children_eq : after.children = before.children)
    (name_eq : after.name = before.name) :
    AccountsFor objects after warnings := by
  cases accounts with
  | intro parts objectsEq childrenEq signed inside =>
      have sameWarnings : warningsAt before (waitingAmong objects) =
          warningsAt after (waitingAmong objects) := by
        rw [warningsAt, warningsAt, children_eq, name_eq]
      rw [sameWarnings]
      refine .intro parts objectsEq (children_eq.trans childrenEq) ?_ inside
      rw [children_eq]
      exact signed

/-! ## Members before others join -/

/-- That an object made a member, to which nothing has been added since. -/
structure Made (part : Part) : Prop where
  name_eq : part.node.name = part.object.facts.displayName
  signed : List.Forall₂ IsSignatureOf
    (ownSignature part.object.facts part.node) part.node.signatures
  inside : AccountsFor part.object.members part.node part.warnings

/-- A part with another declaration in the place of its own. -/
def Part.renew
    (part : Part)
    (node : Declaration) :
    Part :=
  { part with node := node }

/-- Renewed parts have the declarations they are given, and are the same else. -/
theorem parts_renewed
    {parts : List Part}
    {nodes : List Declaration}
    (sameLength : parts.length = nodes.length) :
    let renewed := List.zipWith Part.renew parts nodes
    renewed.map Part.object = parts.map Part.object ∧
      renewed.map Part.node = nodes ∧
      renewed.flatMap Part.warnings = parts.flatMap Part.warnings := by
  induction parts generalizing nodes with
  | nil =>
      cases nodes with
      | nil => exact ⟨rfl, rfl, rfl⟩
      | cons => cases sameLength
  | cons part rest inductionHypothesis =>
      cases nodes with
      | nil => cases sameLength
      | cons node others =>
          obtain ⟨objectsEq, nodesEq, warningsEq⟩ :=
            inductionHypothesis (Nat.succ.inj sameLength)
          exact
            ⟨congrArg (part.object :: ·) objectsEq, congrArg (node :: ·) nodesEq,
              congrArg (part.warnings ++ ·) warningsEq⟩

/-- When all that waited have joined, a declaration accounts for its objects. -/
theorem accountsFor_of_merged
    {objects : List ApiObject}
    {node : Declaration}
    {before : Assembly}
    {result : Declaration × Assembly}
    {parts : List Part}
    (merged : Merged (waitingAmong objects) node before result)
    (objects_eq : declaringAmong objects = parts.map Part.object)
    (children_eq : node.children = parts.map Part.node)
    (made : ∀ part ∈ parts, Made part) :
    AccountsFor objects result.1
      (parts.flatMap Part.warnings ++ warningsAt node (waitingAmong objects)) := by
  have sameLength : parts.length = result.1.children.length := by
    rw [merged.length_eq, children_eq, List.length_map]
  -- What joins changes neither who is joined nor who is warned about.
  have sameWarnings : warningsAt node (waitingAmong objects) =
      warningsAt result.1 (waitingAmong objects) := by
    have sameAlone : isAlone result.1.children = isAlone node.children := by
      funext one
      rw [isAlone, isAlone,
        callablePosition?_of_map_info_eq merged.map_info_children]
    have sameName : result.1.name = node.name :=
      congrArg Info.name merged.info_eq
    rw [warningsAt, warningsAt, sameAlone, sameName]
  obtain ⟨objectsRenewed, nodesRenewed, warningsRenewed⟩ :=
    parts_renewed sameLength
  -- Each member was made and then joined by those that wait for it.
  have joined (position : Nat) (renewed : Part)
      (isRenewed : (List.zipWith Part.renew parts result.1.children)[position]? =
        some renewed) :
      ∃ part, Made part ∧ renewed.object = part.object ∧
        renewed.warnings = part.warnings ∧
        Signed (fun overload => before.overloadDocstring overload part.node.id)
          ((waitingAmong objects).filter (joinsAt node.children position))
          part.node renewed.node := by
    obtain ⟨part, child, isPart, isChild, rfl⟩ :=
      List.getElem?_zipWith_eq_some.mp isRenewed
    refine ⟨part, made part (List.mem_of_getElem? isPart), rfl, rfl,
      merged.children_signed position part.node child ?_ isChild⟩
    rw [children_eq, List.getElem?_map, isPart]
    rfl
  rw [sameWarnings, ← warningsRenewed]
  refine .intro _ (objects_eq.trans objectsRenewed.symm) nodesRenewed.symm ?_ ?_
  · intro position renewed isRenewed
    obtain ⟨part, isMade, sameObject, -, signed⟩ :=
      joined position renewed isRenewed
    obtain ⟨added, signaturesEq, addedSigned⟩ := signed.signatures_eq
    have sameKind : renewed.node.kind = part.node.kind :=
      congrArg Info.kind signed.info_eq
    have sameName : renewed.node.name = part.node.name :=
      congrArg Info.name signed.info_eq
    rw [merged.joinsAt_children, sameObject, sameName, signaturesEq, ownSignature, sameKind]
    exact ⟨isMade.name_eq, List.rel_append isMade.signed
      (addedSigned.imp fun _ _ => IsSignatureWith.isSignatureOf)⟩
  · intro renewed isRenewed
    obtain ⟨position, found⟩ := List.getElem?_of_mem isRenewed
    obtain ⟨part, isMade, sameObject, sameTold, signed⟩ :=
      joined position renewed found
    rw [sameObject, sameTold]
    exact isMade.inside.of_children_eq signed.children_eq
      (congrArg Info.name signed.info_eq)

/-! ## One declaration -/

namespace Assembly

/-- A declaration is made with its name and its own signature and without members. -/
structure Begins
    (facts : Facts)
    (docstring : Docstring)
    (before : Assembly)
    (made : Declaration × Assembly) :
    Prop where
  name_eq : made.1.name = facts.displayName
  comment_eq : made.1.info.comment = summaryComment? docstring
  children_eq : made.1.children = []
  signed : List.Forall₂ (IsSignatureWith docstring)
    (ownSignature facts made.1) made.1.signatures
  docstrings_eq : made.2.docstrings = before.docstrings
  warnings_eq : made.2.warnings = before.warnings

theorem Making.begins
    {facts : Facts}
    {docstring : Docstring}
    {before : Assembly}
    {made : Declaration × Assembly}
    (making : Making facts docstring before made) :
    Begins facts docstring before made := by
  cases making with
  | callable info named after isCallable nameEq commentEq docstringsEq warningsEq =>
      refine
        { name_eq := nameEq
          comment_eq := commentEq
          children_eq := rfl
          signed := ?_
          docstrings_eq := docstringsEq
          warnings_eq := warningsEq }
      rw [ownSignature_of_callable]
      · exact .cons ⟨_, rfl⟩ .nil
      · exact isCallable
  | plain info after isMember notCallable nameEq commentEq docstringsEq warningsEq =>
      refine
        { name_eq := nameEq
          comment_eq := commentEq
          children_eq := rfl
          signed := ?_
          docstrings_eq := docstringsEq
          warnings_eq := warningsEq }
      rw [ownSignature_of_not_callable]
      · exact .nil
      · exact notCallable

/-- Completing a declaration warns only when alternative signatures are merged. -/
theorem exists_merged_complete
    (facts : Facts)
    (docstring : Docstring)
    (owner : Owner)
    (assembly : Assembly) :
    ∃ based : Assembly, based.warnings = assembly.warnings ∧
      based.docstrings = assembly.docstrings ∧
      (assembly.complete facts docstring owner).1 =
        (based.mergeOverloads owner.overloads owner.node).1 ∧
      (assembly.complete facts docstring owner).2.warnings =
        (based.mergeOverloads owner.overloads owner.node).2.warnings := by
  refine ⟨if owner.node.kind == .classDecl then
    assembly.addBases owner.node.id facts.bases else assembly, ?_, ?_, rfl, ?_⟩
  · split <;> rfl
  · split <;> rfl
  · simp only [complete]
    split <;> split <;> rfl

end Assembly

/-! ## The walk -/

/-- What walking objects does to their owner. -/
structure Gathers
    (objects : List ApiObject)
    (before after : Owner × Assembly) :
    Prop where
  name_eq : after.1.node.name = before.1.node.name
  kind_eq : after.1.node.kind = before.1.node.kind
  signatures_eq : after.1.node.signatures = before.1.node.signatures
  overloads_eq : after.1.overloads = before.1.overloads ++ waitingAmong objects
  parts : ∃ parts : List Part,
    declaringAmong objects = parts.map Part.object ∧
      after.1.node.children = before.1.node.children ++ parts.map Part.node ∧
      after.2.warnings = before.2.warnings ++ parts.flatMap Part.warnings ∧
      ∀ part ∈ parts, Made part

namespace Gathers

/-- Nothing is gathered from objects that neither make members nor wait. -/
theorem of_nothing
    {objects : List ApiObject}
    {owner : Owner}
    {before after : Assembly}
    (declaring_eq : declaringAmong objects = [])
    (waiting_eq : waitingAmong objects = [])
    (warnings_eq : after.warnings = before.warnings) :
    Gathers objects (owner, before) (owner, after) where
  name_eq := rfl
  kind_eq := rfl
  signatures_eq := rfl
  overloads_eq := by rw [waiting_eq, List.append_nil]
  parts :=
    ⟨[], declaring_eq, (List.append_nil _).symm,
      warnings_eq.trans (List.append_nil _).symm, List.forall_mem_nil _⟩

theorem append
    {first second : List ApiObject}
    {before middle after : Owner × Assembly}
    (firstStep : Gathers first before middle)
    (secondStep : Gathers second middle after) :
    Gathers (first ++ second) before after where
  name_eq := secondStep.name_eq.trans firstStep.name_eq
  kind_eq := secondStep.kind_eq.trans firstStep.kind_eq
  signatures_eq := secondStep.signatures_eq.trans firstStep.signatures_eq
  overloads_eq := by
    rw [secondStep.overloads_eq, firstStep.overloads_eq, waitingAmong_append,
      List.append_assoc]
  parts := by
    obtain ⟨firstParts, firstObjects, firstNodes, firstWarnings, firstMade⟩ :=
      firstStep.parts
    obtain ⟨secondParts, secondObjects, secondNodes, secondWarnings, secondMade⟩ :=
      secondStep.parts
    refine ⟨firstParts ++ secondParts, ?_, ?_, ?_,
      List.forall_mem_append.mpr ⟨firstMade, secondMade⟩⟩
    · rw [declaringAmong_append, firstObjects, secondObjects, List.map_append]
    · rw [secondNodes, firstNodes, List.map_append, List.append_assoc]
    · rw [secondWarnings, firstWarnings, List.flatMap_append, List.append_assoc]

/-- What an owner gathered accounts for the objects once those that wait have joined. -/
theorem accounts
    {objects : List ApiObject}
    {before after : Owner × Assembly}
    (gathers : Gathers objects before after)
    (memberless : before.1.node.children = [])
    (unwaited : before.1.overloads = [])
    (based : Assembly)
    (warnings_eq : based.warnings = after.2.warnings) :
    ∃ warnings,
      AccountsFor objects
        (based.mergeOverloads after.1.overloads after.1.node).1 warnings ∧
      (based.mergeOverloads after.1.overloads after.1.node).2.warnings =
        before.2.warnings ++ warnings := by
  obtain ⟨parts, objectsEq, childrenEq, warningsEq, made⟩ := gathers.parts
  have waiting : after.1.overloads = waitingAmong objects := by
    rw [gathers.overloads_eq, unwaited, List.nil_append]
  have merged := Assembly.merged_mergeOverloads (waitingAmong objects)
    after.1.node based
  rw [memberless, List.nil_append] at childrenEq
  refine ⟨_, waiting ▸ accountsFor_of_merged merged objectsEq childrenEq made, ?_⟩
  rw [waiting, merged.warnings_eq, warnings_eq, warningsEq, List.append_assoc]

/-- What was begun and gathered its members makes a member when it is completed. -/
theorem exists_made
    {facts : Facts}
    {members : List ApiObject}
    {before : Assembly}
    {begun : Declaration × Assembly}
    {inside : Owner × Assembly}
    (gathers : Gathers members ({ node := begun.1 }, begun.2) inside)
    {docstring : Docstring}
    (begins : Assembly.Begins facts docstring before begun) :
    ∃ warnings,
      Made ⟨.mk facts members,
        (inside.2.complete facts docstring inside.1).1.sortMembers, warnings⟩ ∧
      (inside.2.complete facts docstring inside.1).2.warnings =
        before.warnings ++ warnings := by
  obtain ⟨based, basedWarnings, -, memberEq, doneWarnings⟩ :=
    Assembly.exists_merged_complete facts docstring inside.1 inside.2
  obtain ⟨warnings, accounts, warningsEq⟩ :=
    gathers.accounts begins.children_eq rfl based basedWarnings
  have merged :=
    Assembly.merged_mergeOverloads inside.1.overloads inside.1.node based
  have infoEq := merged.info_eq
  have signaturesEq := merged.signatures_eq
  rw [← memberEq] at accounts infoEq signaturesEq
  rw [doneWarnings, warningsEq, begins.warnings_eq]
  generalize (inside.2.complete facts docstring inside.1).1 = member
    at accounts infoEq signaturesEq ⊢
  have nameEq : member.name = facts.displayName :=
    (congrArg Info.name infoEq).trans (gathers.name_eq.trans begins.name_eq)
  have kindEq : member.kind = begun.1.kind :=
    (congrArg Info.kind infoEq).trans gathers.kind_eq
  have signed : List.Forall₂ IsSignatureOf (ownSignature facts member)
      member.signatures := by
    rw [ownSignature, kindEq, signaturesEq, gathers.signatures_eq]
    exact begins.signed.imp fun _ _ => IsSignatureWith.isSignatureOf
  refine ⟨warnings, ?_, rfl⟩
  cases member
  exact ⟨nameEq, signed, accounts.of_children_eq rfl rfl⟩

/-- A member that was made joins its owner. -/
theorem of_made
    {usesGroups : Bool}
    {facts : Facts}
    {members : List ApiObject}
    {owner : Owner}
    {before after : Assembly}
    {member : Declaration}
    {warnings : List String}
    (role : roleOf facts = .declaration)
    (made : Made ⟨.mk facts members, member.sortMembers, warnings⟩)
    (warnings_eq : after.warnings = before.warnings ++ warnings) :
    Gathers [.mk facts members] (owner, before)
      ({ owner with
          node := (enterGroup usesGroups member owner.node).addChild
            member.sortMembers },
        after) := by
  have declares : declaringAmong [.mk facts members] = [.mk facts members] := by
    simp [declaringAmong, declaring, role]
  have waits : waitingAmong [.mk facts members] = [] := by
    simp [waitingAmong, waiting, role]
  obtain ⟨groups, entered⟩ := exists_enterGroup_eq usesGroups member owner.node
  rw [entered]
  obtain ⟨⟨info, children, signatures, parameters⟩, overloads⟩ := owner
  exact
    { name_eq := rfl
      kind_eq := rfl
      signatures_eq := rfl
      overloads_eq := by rw [waits, List.append_nil]
      parts := ⟨[⟨.mk facts members, member.sortMembers, warnings⟩], declares, rfl,
        by simpa using warnings_eq, List.forall_mem_singleton.mpr made⟩ }

end Gathers

/-- The walk gathers members, and signatures that wait, from its objects. -/
theorem roleLaw_gathers
    (options : Options)
    (usesGroups : Bool) :
    RoleLaw options usesGroups Gathers where
  nil _ := .of_nothing rfl rfl rfl
  cons _ _ _ _ _ firstStep restSteps := firstStep.append restSteps
  opens facts members before after role inside := by
    have sameDeclaring :
        declaringAmong [.mk facts members] = declaringAmong members := by
      simp [declaringAmong, declaring, role]
    have sameWaiting : waitingAmong [.mk facts members] = waitingAmong members := by
      simp [waitingAmong, waiting, role]
    exact
      { inside with
        overloads_eq := sameWaiting ▸ inside.overloads_eq
        parts := sameDeclaring ▸ inside.parts }
  addsAlias facts members owner assembly role := by
    refine .of_nothing ?_ ?_ rfl
    · simp [declaringAmong, declaring, role]
    · simp [waitingAmong, waiting, role]
  waits facts members owner assembly role := by
    have waits : waitingAmong [.mk facts members] = [facts] := by
      simp [waitingAmong, waiting, role]
    have declares : declaringAmong [.mk facts members] = [] := by
      simp [declaringAmong, declaring, role]
    exact
      { name_eq := rfl
        kind_eq := rfl
        signatures_eq := rfl
        overloads_eq := by rw [waits]
        parts := ⟨[], declares, (List.append_nil _).symm, (List.append_nil _).symm,
          List.forall_mem_nil _⟩ }
  declares here facts members owner assembly inside role steps := by
    obtain ⟨warnings, made, warningsEq⟩ :=
      steps.exists_made
        (Assembly.making_declaration options here owner.node.kind facts
          (docstringAt here facts) assembly).begins
    exact .of_made role made warningsEq

/-- The declarations of a project account for its modules. -/
theorem accountsFor_assemble
    (options : Options)
    (modules : List ApiObject) :
    AccountsFor modules (assemble options modules).1
      (assemble options modules).2.warnings := by
  have walked :=
    (roleLaw_gathers options
      (ApiObject.anyMentions groupDecorator modules)).walkAll modules {}
        ({ node := emptyRoot options }, {})
  obtain ⟨warnings, accounts, warningsEq⟩ := walked.accounts rfl rfl _ rfl
  have sameWarnings : (assemble options modules).2.warnings = warnings := warningsEq
  rw [sameWarnings]
  exact accounts

/-! ## Counting -/

/-- How many nodes of a tree have a kind that is wanted. -/
def tally
    (wanted : Kind → Bool)
    (declaration : Declaration) :
    Nat :=
  declaration.infos.countP fun info => wanted info.kind

/-- Whether a kind is that of call signatures. -/
def isSignature (kind : Kind) : Bool :=
  kind == .callSignature

section

variable
    (wanted : Kind → Bool)

theorem tally_addChild (declaration child : Declaration) :
    tally wanted (declaration.addChild child) =
      tally wanted declaration + tally wanted child := by
  cases declaration
  simp only [tally, Declaration.addChild, Declaration.infos_node, List.countP_cons,
    List.countP_append, List.flatMap_append, List.flatMap_singleton]
  omega

theorem tally_addSignature (declaration signature : Declaration) :
    tally wanted (declaration.addSignature signature) =
      tally wanted declaration + tally wanted signature := by
  cases declaration
  simp only [tally, Declaration.addSignature, Declaration.infos_node,
    List.countP_cons, List.countP_append, List.flatMap_append,
    List.flatMap_singleton]
  omega

theorem tally_updateInfo
    {change : Info → Info}
    (keeps : ∀ info, (change info).kind = info.kind)
    (declaration : Declaration) :
    tally wanted (declaration.updateInfo change) = tally wanted declaration := by
  cases declaration
  simp only [tally, Declaration.updateInfo, Declaration.infos_node,
    List.countP_cons, keeps]

theorem tally_sortMembers (declaration : Declaration) :
    tally wanted declaration.sortMembers = tally wanted declaration := by
  rw [Declaration.sortMembers, tally_updateInfo]
  exact fun _ => rfl

theorem tally_enterGroup
    (usesGroups : Bool)
    (member owner : Declaration) :
    tally wanted (enterGroup usesGroups member owner) = tally wanted owner := by
  obtain ⟨groups, entered⟩ := exists_enterGroup_eq usesGroups member owner
  rw [entered, tally_updateInfo]
  exact fun _ => rfl

/-- A signature that joins a member joins the tree. -/
theorem tally_set
    {node callable : Declaration}
    {position : Nat}
    (found : node.children[position]? = some callable)
    (signature : Declaration) :
    tally wanted
        (node.setChildren
          (node.children.set position (callable.addSignature signature))) =
      tally wanted node + tally wanted signature := by
  obtain ⟨front, back, shape, -, replaced⟩ := Declaration.exists_around found
  have added := tally_addSignature wanted callable signature
  rw [replaced]
  cases node with
  | node info children signatures parameters =>
      obtain rfl : children = front ++ callable :: back := shape
      simp only [tally] at added
      simp only [tally, Declaration.setChildren, Declaration.infos_node,
        List.countP_cons, List.countP_append, List.flatMap_append,
        List.flatMap_cons, added]
      omega

variable {wanted}

/-- A signature is one node, whatever parameters it has, if these are not wanted. -/
theorem tally_signature
    (unwanted : wanted .parameter = false)
    (facts : Facts)
    (docstring : Docstring)
    (name : String)
    (assembly : Assembly) :
    tally wanted (assembly.signature facts docstring name).1 =
      if wanted .callSignature then 1 else 0 := by
  have parametersUnwanted :
      (assembly.signature facts docstring name).1.parameters.countP
        (fun parameter => wanted parameter.kind) = 0 := by
    refine List.countP_eq_zero.mpr fun parameter isParameter => ?_
    rw [(Assembly.kinds_parameters _ _ _ parameter isParameter).1, unwanted]
    decide
  rw [tally, Declaration.infos, List.countP_map, Assembly.nodes_signature,
    List.countP_cons]
  exact (congrArg (· + _) parametersUnwanted).trans (Nat.zero_add _)

end

namespace Assembly

/-- A declaration is made with one signature if it is callable, and else without. -/
theorem Making.tally_eq
    {facts : Facts}
    {docstring : Docstring}
    {before : Assembly}
    {made : Declaration × Assembly}
    (making : Making facts docstring before made) :
    tally isSignature made.1 = tally Kind.isCallable made.1 := by
  have alone (wanted : Kind → Bool) (info : Info) :
      tally wanted (.ofInfo info) = if wanted info.kind then 1 else 0 := by
    simp [tally, Declaration.ofInfo, Declaration.infos_node]
  cases making with
  | callable info named after isCallable =>
      have notSignature : isSignature info.kind = false := by
        revert isCallable
        cases info.kind <;> decide
      rw [tally_addSignature, tally_addSignature, tally_signature rfl,
        tally_signature rfl, alone, alone, isCallable, notSignature]
      rfl
  | plain info after isMember notCallable =>
      have notSignature : isSignature info.kind = false := by
        revert isMember
        cases info.kind <;> decide
      rw [alone, alone, notCallable, notSignature]

/-- An alternative signature adds one signature or one warning, and no callable. -/
theorem tally_mergeOverload
    (node : Declaration)
    (overload : Facts)
    (assembly : Assembly) :
    let result := assembly.mergeOverload node overload
    tally isSignature result.1 + result.2.warnings.length =
        tally isSignature node + assembly.warnings.length + 1 ∧
      tally Kind.isCallable result.1 = tally Kind.isCallable node := by
  have merging := merging_mergeOverload node overload assembly
  generalize assembly.mergeOverload node overload = result at merging ⊢
  cases merging with
  | warns =>
      refine ⟨?_, rfl⟩
      rw [List.length_append, List.length_singleton, Nat.add_assoc]
  | joins position callable docstring first found =>
      have oneSignature : tally isSignature
          (assembly.signature overload docstring overload.displayName).1 = 1 :=
        tally_signature rfl _ _ _ _
      have noCallable : tally Kind.isCallable
          (assembly.signature overload docstring overload.displayName).1 = 0 :=
        tally_signature rfl _ _ _ _
      dsimp only
      rw [tally_set _ found, tally_set _ found, oneSignature, noCallable,
        warnings_recordSignature, warnings_signature]
      exact ⟨Nat.add_right_comm _ _ _, rfl⟩

theorem tally_mergeOverloads
    (overloads : List Facts)
    (node : Declaration)
    (assembly : Assembly) :
    let result := assembly.mergeOverloads overloads node
    tally isSignature result.1 + result.2.warnings.length =
        tally isSignature node + assembly.warnings.length + overloads.length ∧
      tally Kind.isCallable result.1 = tally Kind.isCallable node := by
  induction overloads generalizing node assembly with
  | nil =>
      exact ⟨rfl, rfl⟩
  | cons overload rest inductionHypothesis =>
      obtain ⟨firstSum, firstCallables⟩ := tally_mergeOverload node overload assembly
      obtain ⟨restSum, restCallables⟩ := inductionHypothesis
        (assembly.mergeOverload node overload).1
        (assembly.mergeOverload node overload).2
      refine ⟨?_, restCallables.trans firstCallables⟩
      have first : assembly.mergeOverloads (overload :: rest) node =
          mergeOverloads rest (assembly.mergeOverload node overload).1
            (assembly.mergeOverload node overload).2 := rfl
      rw [first, List.length_cons]
      omega

end Assembly

/--
How many signatures and warnings there are, with the alternative signatures that wait,
beyond one for each callable.
-/
def surplus (state : Owner × Assembly) : Int :=
  tally isSignature state.1.node + state.2.warnings.length +
    state.1.overloads.length - tally Kind.isCallable state.1.node

/-- The surplus grows by one for each alternative signature that the walk comes to. -/
theorem roleLaw_surplus
    (options : Options)
    (usesGroups : Bool) :
    RoleLaw options usesGroups fun objects before after =>
      surplus after = surplus before + (reachedAmong objects).length where
  nil _ := (Int.add_zero _).symm
  cons object rest first second third firstGrows restGrow := by
    simp only [reachedAmong, List.append_nil, List.length_append] at *
    omega
  opens facts members before after role grows := by
    simpa [reachedAmong, reached, role] using grows
  addsAlias facts members owner assembly role := by
    simp [reachedAmong, reached, role, surplus, Assembly.addAlias]
  waits facts members owner assembly role := by
    simp [reachedAmong, reached, role, surplus]
    omega
  declares here facts members owner assembly inside role grows := by
    have reachedEq : reachedAmong [.mk facts members] = reachedAmong members := by
      simp [reachedAmong, reached, role]
    have making := Assembly.making_declaration options here owner.node.kind facts
      (docstringAt here facts) assembly
    have begun : surplus (assembly.opened options here facts owner.node.kind) =
        assembly.warnings.length := by
      simp only [surplus, Assembly.opened, making.begins.warnings_eq, making.tally_eq,
        List.length_nil]
      omega
    obtain ⟨based, basedWarnings, -, memberEq, doneWarnings⟩ :=
      Assembly.exists_merged_complete facts (docstringAt here facts) inside.1
        inside.2
    obtain ⟨merged, sameCallables⟩ :=
      Assembly.tally_mergeOverloads inside.1.overloads inside.1.node based
    rw [begun] at grows
    rw [basedWarnings, ← memberEq, ← doneWarnings] at merged
    rw [← memberEq] at sameCallables
    simp only [Assembly.closed, surplus, reachedEq, tally_addChild,
      tally_enterGroup, tally_sortMembers] at grows ⊢
    omega

/-- Signatures and warnings are as many as callables and alternative signatures. -/
theorem tally_assemble
    (options : Options)
    (modules : List ApiObject) :
    tally isSignature (assemble options modules).1 +
        (assemble options modules).2.warnings.length =
      tally Kind.isCallable (assemble options modules).1 +
        (reachedAmong modules).length := by
  have walked :=
    (roleLaw_surplus options
      (ApiObject.anyMentions groupDecorator modules)).walkAll modules {}
        ({ node := emptyRoot options }, {})
  have atStart : surplus ({ node := emptyRoot options }, {}) = 0 := by
    simp [surplus, tally, emptyRoot, Declaration.ofInfo, Declaration.infos_node,
      isSignature, Kind.isCallable]
  rw [atStart, surplus] at walked
  simp only [assemble]
  generalize walkAll options (ApiObject.anyMentions groupDecorator modules) {} modules
    ({ node := emptyRoot options }, {}) = state at walked ⊢
  obtain ⟨merged, sameCallables⟩ :=
    Assembly.tally_mergeOverloads state.1.overloads state.1.node state.2
  omega

/--
The declarations of a project account for its modules.  Each alternative signature that
the walk comes to is one signature of the first callable member of its name, behind the
member's own and in the order of the dump, or one warning if there is no such member,
and it makes no member.  So there are as many signatures and warnings as there are
callables and alternative signatures.
-/
theorem overloads_accounted_for
    (options : Options)
    (modules : List ApiObject) :
    AccountsFor modules (assemble options modules).1
        (assemble options modules).2.warnings ∧
      tally isSignature (assemble options modules).1 +
          (assemble options modules).2.warnings.length =
        tally Kind.isCallable (assemble options modules).1 +
          (reachedAmong modules).length :=
  ⟨accountsFor_assemble options modules, tally_assemble options modules⟩

end ApiTree.Convert
