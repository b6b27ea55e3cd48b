import ApiTree.Proofs.Convert.Grouping

namespace ApiTree.Convert

open ApiTree.Decl
open ApiTree.Dump (Argument Docstring Facts)

/-!
# Alternative signatures that join

An alternative signature joins the first callable member of its name, behind the
signatures that are there, or it is warned about if there is no such member.  Neither
changes which member another one joins.  So of several that wait each member gets
those of its name in their order, and there is one warning for each of the others.
-/

/-- That an alternative signature joins the member at a position. -/
def joinsAt
    (members : List Declaration)
    (position : Nat)
    (overload : Facts) :
    Bool :=
  callablePosition? overload.displayName members == some position

/-- That no member is callable under the name of an alternative signature. -/
def isAlone
    (members : List Declaration)
    (overload : Facts) :
    Bool :=
  (callablePosition? overload.displayName members).isNone

/-- The warnings about the alternative signatures that find no member to join. -/
def warningsAt
    (node : Declaration)
    (overloads : List Facts) :
    List String :=
  (overloads.filter (isAlone node.children)).map fun overload =>
    overloadWarning overload.displayName node.name

/-- That a declaration is the call signature of an object. -/
def IsSignatureOf
    (facts : Facts)
    (signature : Declaration) :
    Prop :=
  ∃ (assembly : Assembly) (docstring : Docstring),
    signature = (assembly.signature facts docstring facts.displayName).1

/-- That a declaration is the call signature of an object that has a docstring. -/
def IsSignatureWith
    (docstring : Docstring)
    (facts : Facts)
    (signature : Declaration) :
    Prop :=
  ∃ assembly : Assembly,
    signature = (assembly.signature facts docstring facts.displayName).1

theorem IsSignatureWith.isSignatureOf
    {docstring : Docstring}
    {facts : Facts}
    {signature : Declaration}
    (isSignature : IsSignatureWith docstring facts signature) :
    IsSignatureOf facts signature := by
  obtain ⟨assembly, rfl⟩ := isSignature
  exact ⟨assembly, docstring, rfl⟩

/--
That a declaration got the call signatures of objects, in order and each with the
docstring that it is to have, and nothing else.
-/
structure Signed
    (docstringOf : Facts → Docstring)
    (overloads : List Facts)
    (before after : Declaration) :
    Prop where
  info_eq : after.info = before.info
  children_eq : after.children = before.children
  parameters_eq : after.parameters = before.parameters
  signatures_eq : ∃ added, after.signatures = before.signatures ++ added ∧
    List.Forall₂ (fun facts => IsSignatureWith (docstringOf facts) facts)
      overloads added

namespace Signed

variable {docstringOf : Facts → Docstring}

theorem refl (declaration : Declaration) :
    Signed docstringOf [] declaration declaration :=
  ⟨rfl, rfl, rfl, [], (List.append_nil _).symm, .nil⟩

theorem single
    {facts : Facts}
    {callable signature : Declaration}
    (isSignature : IsSignatureWith (docstringOf facts) facts signature) :
    Signed docstringOf [facts] callable (callable.addSignature signature) := by
  cases callable
  exact ⟨rfl, rfl, rfl, [signature], rfl, .cons isSignature .nil⟩

theorem trans
    {earlier later : List Facts}
    {first second third : Declaration}
    (firstStep : Signed docstringOf earlier first second)
    (secondStep : Signed docstringOf later second third) :
    Signed docstringOf (earlier ++ later) first third := by
  obtain ⟨firstAdded, firstEq, firstSigned⟩ := firstStep.signatures_eq
  obtain ⟨secondAdded, secondEq, secondSigned⟩ := secondStep.signatures_eq
  exact
    { info_eq := secondStep.info_eq.trans firstStep.info_eq
      children_eq := secondStep.children_eq.trans firstStep.children_eq
      parameters_eq := secondStep.parameters_eq.trans firstStep.parameters_eq
      signatures_eq := ⟨firstAdded ++ secondAdded,
        by rw [secondEq, firstEq, List.append_assoc],
        List.rel_append firstSigned secondSigned⟩ }

end Signed

/-! ## Callables -/

/-- Whether a member is callable under a name depends on its information only. -/
theorem callablePosition?_of_map_info_eq
    {before after : List Declaration}
    (same : after.map Declaration.info = before.map Declaration.info)
    (name : String) :
    callablePosition? name after = callablePosition? name before := by
  have ofInfos (members : List Declaration) :
      callablePosition? name members =
        (members.map Declaration.info).findIdx? fun info =>
          info.kind.isCallable && info.name == name := by
    rw [List.findIdx?_map]
    rfl
  rw [ofInfos, ofInfos, same]

/-- The position of a callable that is found holds the first member of these. -/
theorem callablePosition?_eq_some_iff
    {name : String}
    {members : List Declaration}
    {position : Nat} :
    callablePosition? name members = some position ↔
      ∃ front callable back, members = front ++ callable :: back ∧
        front.length = position ∧
        (callable.kind.isCallable = true ∧ callable.name = name) ∧
        ∀ one ∈ front, ¬ (one.kind.isCallable = true ∧ one.name = name) := by
  rw [callablePosition?, List.findIdx?_eq_some_iff_getElem]
  constructor
  · rintro ⟨inside, isCallable, earlier⟩
    refine ⟨members.take position, members[position], members.drop (position + 1),
      ?_, List.length_take_of_le (Nat.le_of_lt inside), by simpa using isCallable, ?_⟩
    · rw [List.getElem_cons_drop, List.take_append_drop]
    · intro one isOne
      obtain ⟨index, isBefore, rfl⟩ := List.getElem_of_mem isOne
      rw [List.length_take] at isBefore
      simpa using earlier index (by omega)
  · rintro ⟨front, callable, back, rfl, rfl, isCallable, others⟩
    refine ⟨by simp, by simpa using isCallable, ?_⟩
    intro index isBefore
    rw [List.getElem_append_left isBefore]
    simpa using others _ (List.getElem_mem isBefore)

theorem callablePosition?_eq_none_iff
    {name : String}
    {members : List Declaration} :
    callablePosition? name members = none ↔
      ∀ one ∈ members, ¬ (one.kind.isCallable = true ∧ one.name = name) := by
  simp [callablePosition?]

/-! ## One alternative signature -/

namespace Assembly

theorem warnings_parameters
    (docstring : Docstring)
    (arguments : List Argument)
    (assembly : Assembly) :
    (assembly.parameters docstring arguments).2.warnings = assembly.warnings := by
  induction arguments generalizing assembly with
  | nil =>
      rfl
  | cons argument rest inductionHypothesis =>
      exact inductionHypothesis (assembly.parameter docstring argument).2

/-- Making a signature is no reason for a warning. -/
theorem warnings_signature
    (facts : Facts)
    (docstring : Docstring)
    (name : String)
    (assembly : Assembly) :
    (assembly.signature facts docstring name).2.warnings = assembly.warnings :=
  warnings_parameters docstring _ _

theorem warnings_recordSignature
    (file : String)
    (signature : Declaration)
    (assembly : Assembly) :
    (assembly.recordSignature file signature).warnings = assembly.warnings := by
  have each (nodes : List Declaration) (recorded : Assembly) :
      (nodes.foldl
        (fun assembly node => assembly.recordSymbol node.id node.name file)
        recorded).warnings = recorded.warnings := by
    induction nodes generalizing recorded with
    | nil =>
        rfl
    | cons first rest inductionHypothesis =>
        exact inductionHypothesis _
  exact each _ assembly

/-- What one alternative signature does. -/
inductive Merging
    (node : Declaration)
    (overload : Facts)
    (before : Assembly) :
    Declaration × Assembly → Prop where
  /-- No member is callable under its name. -/
  | warns
      (alone : callablePosition? overload.displayName node.children = none) :
      Merging node overload before
        (node,
          { before with
            warnings :=
              before.warnings ++ [overloadWarning overload.displayName node.name] })
  /-- It joins the first member that is. -/
  | joins
      (position : Nat)
      (callable : Declaration)
      (docstring : Docstring)
      (first : callablePosition? overload.displayName node.children = some position)
      (found : node.children[position]? = some callable)
      (isCallable : callable.kind.isCallable = true)
      (file : String)
      (docstring_eq : docstring = before.overloadDocstring overload callable.id) :
      Merging node overload before
        (node.setChildren
            (node.children.set position
              (callable.addSignature
                (before.signature overload docstring overload.displayName).1)),
          (before.signature overload docstring
              overload.displayName).2.recordSignature file
            (before.signature overload docstring overload.displayName).1)

/-- An alternative signature does one of these things. -/
theorem merging_mergeOverload
    (node : Declaration)
    (overload : Facts)
    (assembly : Assembly) :
    Merging node overload assembly (assembly.mergeOverload node overload) := by
  simp only [mergeOverload]
  cases first : callablePosition? overload.displayName node.children with
  | none =>
      exact .warns first
  | some position =>
      obtain ⟨front, callable, back, shape, atPosition, ⟨isCallable, -⟩, -⟩ :=
        callablePosition?_eq_some_iff.mp first
      have found : node.children[position]? = some callable := by
        rw [shape, ← atPosition]
        simp
      simp only [Option.bind_some, found, Option.map_some]
      exact .joins position callable _ first found isCallable _ rfl

end Assembly

/-! ## All that wait -/

/-- What became of a declaration and of the alternative signatures that waited for it. -/
structure Merged
    (overloads : List Facts)
    (node : Declaration)
    (before : Assembly)
    (result : Declaration × Assembly) :
    Prop where
  info_eq : result.1.info = node.info
  signatures_eq : result.1.signatures = node.signatures
  parameters_eq : result.1.parameters = node.parameters
  length_eq : result.1.children.length = node.children.length
  children_signed : ∀ position child merged,
    node.children[position]? = some child →
      result.1.children[position]? = some merged →
        Signed (fun overload => before.overloadDocstring overload child.id)
          (overloads.filter (joinsAt node.children position)) child merged
  docstrings_eq : result.2.docstrings = before.docstrings
  warnings_eq : result.2.warnings = before.warnings ++ warningsAt node overloads

namespace Merged

variable
    {overloads : List Facts}
    {node : Declaration}
    {before : Assembly}
    {result : Declaration × Assembly}

/-- Joining changes the information of no member. -/
theorem map_info_children
    (merged : Merged overloads node before result) :
    result.1.children.map Declaration.info = node.children.map Declaration.info := by
  refine List.ext_getElem? fun position => ?_
  rw [List.getElem?_map, List.getElem?_map]
  cases found : node.children[position]? with
  | none =>
      have outside := List.getElem?_eq_none_iff.mp found
      rw [List.getElem?_eq_none_iff.mpr (merged.length_eq ▸ outside)]
  | some child =>
      obtain ⟨inside, -⟩ := List.getElem?_eq_some_iff.mp found
      have changed := List.getElem?_eq_getElem (merged.length_eq.symm ▸ inside)
      rw [changed]
      exact congrArg some
        (merged.children_signed position child _ found changed).info_eq

/-- Joining changes for none which member it joins. -/
theorem joinsAt_children
    (merged : Merged overloads node before result) :
    joinsAt result.1.children = joinsAt node.children := by
  funext position one
  rw [joinsAt, joinsAt, callablePosition?_of_map_info_eq merged.map_info_children]

theorem nil (node : Declaration) (assembly : Assembly) :
    Merged [] node assembly (node, assembly) where
  info_eq := rfl
  signatures_eq := rfl
  parameters_eq := rfl
  length_eq := rfl
  children_signed := by
    intro position child merged found changed
    obtain rfl : child = merged := Option.some.inj (found.symm.trans changed)
    exact .refl child
  docstrings_eq := rfl
  warnings_eq := (List.append_nil _).symm

/-- One alternative signature joins one member or is warned about. -/
theorem of_merging
    {overload : Facts}
    (merging : Assembly.Merging node overload before result) :
    Merged [overload] node before result := by
  cases merging with
  | warns alone =>
      refine
        { info_eq := rfl
          signatures_eq := rfl
          parameters_eq := rfl
          length_eq := rfl
          children_signed := ?_
          docstrings_eq := rfl
          warnings_eq := ?_ }
      · intro position child merged found changed
        obtain rfl : child = merged := Option.some.inj (found.symm.trans changed)
        simp only [List.filter_cons, joinsAt, alone, List.filter_nil]
        exact .refl child
      · simp [warningsAt, isAlone, alone]
  | joins position callable docstring first found _ file docstringEq =>
      refine
        { info_eq := by simp
          signatures_eq := by cases node; rfl
          parameters_eq := by cases node; rfl
          length_eq := by simp
          children_signed := ?_
          docstrings_eq :=
            ((Assembly.signature_apart _ _ _ _).1.trans
              (Assembly.adds_recordSignature _ _ _)).docstrings_eq
          warnings_eq := ?_ }
      · intro index child merged wasChild changed
        rw [Declaration.children_setChildren] at changed
        simp only [List.filter_cons, joinsAt, first, List.filter_nil]
        by_cases isHere : position = index
        · subst isHere
          obtain ⟨inside, -⟩ := List.getElem?_eq_some_iff.mp found
          obtain rfl : callable = child := Option.some.inj (found.symm.trans wasChild)
          rw [List.getElem?_set_self inside] at changed
          obtain rfl := Option.some.inj changed
          rw [beq_self_eq_true, if_pos rfl]
          exact .single ⟨before, by rw [docstringEq]⟩
        · rw [List.getElem?_set_ne isHere] at changed
          obtain rfl : child = merged :=
            Option.some.inj (wasChild.symm.trans changed)
          rw [if_neg (by simpa using isHere)]
          exact .refl child
      · rw [Assembly.warnings_recordSignature, Assembly.warnings_signature]
        simp [warningsAt, isAlone, first]

/-- What joins later joins the same members. -/
theorem cons
    {overload : Facts}
    {rest : List Facts}
    {middle : Declaration × Assembly}
    (first : Merged [overload] node before middle)
    (others : Merged rest middle.1 middle.2 result) :
    Merged (overload :: rest) node before result := by
  have samePosition := callablePosition?_of_map_info_eq first.map_info_children
  refine
    { info_eq := others.info_eq.trans first.info_eq
      signatures_eq := others.signatures_eq.trans first.signatures_eq
      parameters_eq := others.parameters_eq.trans first.parameters_eq
      length_eq := others.length_eq.trans first.length_eq
      children_signed := ?_
      docstrings_eq := others.docstrings_eq.trans first.docstrings_eq
      warnings_eq := ?_ }
  · intro position child merged found changed
    obtain ⟨inside, -⟩ := List.getElem?_eq_some_iff.mp found
    obtain ⟨joined, between⟩ :
        ∃ joined, middle.1.children[position]? = some joined :=
      ⟨_, List.getElem?_eq_getElem (first.length_eq.symm ▸ inside)⟩
    have firstSigned := first.children_signed position child joined found between
    have restSigned :=
      others.children_signed position joined merged between changed
    have sameDocstring (one : Facts) : middle.2.overloadDocstring one joined.id =
        before.overloadDocstring one child.id := by
      rw [Assembly.overloadDocstring, Assembly.overloadDocstring,
        first.docstrings_eq, Declaration.id, firstSigned.info_eq, Declaration.id]
    simp only [first.joinsAt_children, sameDocstring] at restSigned
    have both := firstSigned.trans restSigned
    rwa [← List.filter_append] at both
  · have sameAlone : isAlone middle.1.children = isAlone node.children := by
      funext one
      rw [isAlone, isAlone, samePosition]
    have sameName : middle.1.name = node.name := congrArg Info.name first.info_eq
    rw [others.warnings_eq, first.warnings_eq, List.append_assoc]
    simp only [warningsAt, sameAlone, sameName, ← List.map_append,
      ← List.filter_append, List.singleton_append]

end Merged

/-- All that wait for the members of a declaration join or are warned about. -/
theorem Assembly.merged_mergeOverloads
    (overloads : List Facts)
    (node : Declaration)
    (assembly : Assembly) :
    Merged overloads node assembly (assembly.mergeOverloads overloads node) := by
  induction overloads generalizing node assembly with
  | nil =>
      exact .nil node assembly
  | cons overload rest inductionHypothesis =>
      exact (Merged.of_merging (merging_mergeOverload node overload assembly)).cons
        (inductionHypothesis _ _)

end ApiTree.Convert
