import ApiTree.Proofs.Convert.Documentation

namespace ApiTree.Convert

open ApiTree.Decl
open ApiTree.Dump (ApiObject Argument Docstring Facts)

/-!
# Descriptions that reach signatures

A docstring may describe parameters and what is returned without having a summary.
The signature of a declaration gets the descriptions of its parameters in any case, but
what is returned only with a summary.  An alternative signature without a summary gets
the descriptions of the callable that it joins, in place of its own.
-/

/-- The description of a returned value as a part of a comment. -/
def returnsTag (text : String) : BlockTag :=
  ⟨"@returns", [.ofText text]⟩

/-- That a signature has what the docstring of its object says about parameters. -/
def DescribesParameters
    (facts : Facts)
    (signature : Declaration) :
    Prop :=
  List.Forall₂
    (fun (argument : Argument) parameter =>
      ∀ text, (Docstring.parse facts.docstringText).parameter? argument.name =
          some text →
        parameter.info.comment = some (.ofSummary text))
    (facts.arguments.filter (!·.isReceiver)) signature.parameters

/-- That a signature has what the docstring of its object says is returned. -/
def DescribesReturns
    (facts : Facts)
    (signature : Declaration) :
    Prop :=
  ∀ text, (Docstring.parse facts.docstringText).returns = some text →
    ∃ comment, signature.info.comment = some comment ∧
      returnsTag text ∈ comment.blockTags

/-- That one docstring says about the parameters of an object what that of the object does. -/
def RepeatsParameters
    (facts : Facts)
    (docstring : Docstring) :
    Prop :=
  ∀ argument ∈ facts.arguments.filter (!·.isReceiver), ∀ text,
    (Docstring.parse facts.docstringText).parameter? argument.name = some text →
      docstring.parameter? argument.name = some text

/-- That a docstring with a summary says is returned what that of an object says. -/
def RepeatsReturns
    (facts : Facts)
    (docstring : Docstring) :
    Prop :=
  ∀ text, (Docstring.parse facts.docstringText).returns = some text →
    docstring.isEmpty = false ∧ docstring.returns = some text

/-! ## One signature -/

/-- A docstring gives each parameter its description. -/
theorem comments_parameters
    (docstring : Docstring)
    (arguments : List Argument)
    (assembly : Assembly) :
    List.Forall₂
      (fun (argument : Argument) parameter =>
        parameter.info.comment =
          (docstring.parameter? argument.name).map .ofSummary)
      arguments (assembly.parameters docstring arguments).1 := by
  induction arguments generalizing assembly with
  | nil =>
      exact .nil
  | cons argument rest inductionHypothesis =>
      exact .cons rfl (inductionHypothesis (assembly.parameter docstring argument).2)

/-- The comment of a paragraph tells its text. -/
theorem ofSummary_inj
    {first second : String} :
    Comment.ofSummary first = Comment.ofSummary second ↔ first = second := by
  simp [Comment.ofSummary, TextPart.ofText]

/-- What is returned is part of a comment only if there is a summary. -/
theorem exists_returnsTag_iff
    {docstring : Docstring}
    {text : String} :
    (∃ comment, signatureComment? docstring = some comment ∧
        returnsTag text ∈ comment.blockTags) ↔
      docstring.isEmpty = false ∧ docstring.returns = some text := by
  simp only [signatureComment?, summaryComment?]
  cases docstring.isEmpty with
  | true =>
      simp
  | false =>
      cases docstring.returns with
      | none =>
          simp [Comment.ofSummary]
      | some returns =>
          simp [Comment.ofSummary, Comment.addReturns, TextPart.ofText, returnsTag,
            eq_comm]

section

variable
    {facts : Facts}
    {docstring : Docstring}
    {signature : Declaration}

theorem describesParameters_iff
    (isSignature : IsSignatureWith docstring facts signature) :
    DescribesParameters facts signature ↔ RepeatsParameters facts docstring := by
  obtain ⟨assembly, rfl⟩ := isSignature
  have commented : List.Forall₂
      (fun (argument : Argument) parameter =>
        parameter.info.comment =
          (docstring.parameter? argument.name).map .ofSummary)
      (facts.arguments.filter (!·.isReceiver))
      (assembly.signature facts docstring facts.displayName).1.parameters :=
    comments_parameters docstring _ _
  rw [DescribesParameters, RepeatsParameters]
  generalize facts.arguments.filter (!·.isReceiver) = arguments,
    (assembly.signature facts docstring facts.displayName).1.parameters = parameters
    at commented ⊢
  induction commented with
  | nil =>
      exact iff_of_true .nil (List.forall_mem_nil _)
  | cons isComment _ inductionHypothesis =>
      simp only [List.forall₂_cons, List.forall_mem_cons, isComment,
        Option.map_eq_some_iff, ofSummary_inj, exists_eq_right]
      exact and_congr_right fun _ => inductionHypothesis

theorem describesReturns_iff
    (isSignature : IsSignatureWith docstring facts signature) :
    DescribesReturns facts signature ↔ RepeatsReturns facts docstring := by
  obtain ⟨assembly, rfl⟩ := isSignature
  exact forall₂_congr fun text _ => exists_returnsTag_iff

end

/-! ## Signatures where they stand -/

/-- What the signature of a declaration has of its docstring: all but what is returned. -/
structure OwnDescribed
    (around : List Layer)
    (facts : Facts)
    (signature : Declaration) :
    Prop where
  parameters : DescribesParameters facts signature
  returns_iff : DescribesReturns facts signature ↔
    (Docstring.parse facts.docstringText).returns = none ∨
      (summary? around facts).isSome = true

/--
What an alternative signature has of its docstring: all if there is a summary, and else
what the docstring of its callable repeats.
-/
structure AlternativeDescribed
    (callable : Docstring)
    (overload : Facts)
    (signature : Declaration) :
    Prop where
  parameters_iff : DescribesParameters overload signature ↔
    (Docstring.parse overload.docstringText).isEmpty = false ∨
      RepeatsParameters overload callable
  returns_iff : DescribesReturns overload signature ↔
    (Docstring.parse overload.docstringText).isEmpty = false ∨
      RepeatsReturns overload callable

theorem ownDescribed_of_signature
    {around : List Layer}
    {facts : Facts}
    {signature : Declaration}
    (isSignature : IsSignatureWith (docstringWithin around facts) facts signature) :
    OwnDescribed around facts signature where
  parameters :=
    (describesParameters_iff isSignature).mpr fun _ _ _ describes => describes
  returns_iff := by
    rw [describesReturns_iff isSignature, RepeatsReturns,
      isEmpty_docstringWithin, Option.isNone_eq_false_iff]
    -- What is returned is the same, so only the summary is asked for.
    cases isReturned : (Docstring.parse facts.docstringText).returns with
    | none => simp
    | some returns => simp [docstringWithin, isReturned]

theorem alternativeDescribed_of_signature
    {callable : Docstring}
    {overload : Facts}
    {signature : Declaration}
    (isSignature :
      IsSignatureWith (alternativeDocstring callable overload) overload signature) :
    AlternativeDescribed callable overload signature := by
  have parameters := describesParameters_iff isSignature
  have returns := describesReturns_iff isSignature
  cases isEmpty : (Docstring.parse overload.docstringText).isEmpty with
  | true =>
      have itsOwn : alternativeDocstring callable overload = callable :=
        if_pos isEmpty
      rw [itsOwn] at parameters returns
      exact
        { parameters_iff := by simpa [isEmpty] using parameters
          returns_iff := by simpa [isEmpty] using returns }
  | false =>
      have itsOwn : alternativeDocstring callable overload =
          Docstring.parse overload.docstringText :=
        if_neg (ne_true_of_eq_false isEmpty)
      rw [itsOwn] at parameters returns
      exact
        { parameters_iff := iff_of_true
            (parameters.mpr fun _ _ _ describes => describes) (.inl isEmpty)
          returns_iff := iff_of_true
            (returns.mpr fun _ isReturned => ⟨isEmpty, isReturned⟩) (.inl isEmpty) }

/-- That no signature drops what its docstring says about parameters and what is returned. -/
def KeepsDescriptions
    (options : Options)
    (modules : List ApiObject) :
    Prop :=
  Throughout
    (fun _ facts joined node =>
      List.Forall₂
        (fun signer signature =>
          DescribesParameters signer signature ∧ DescribesReturns signer signature)
        (ownSignature facts node ++ joined) node.signatures)
    [] modules (assemble options modules).1

/--
The signature of every declaration has the descriptions of its parameters, and what is
returned if nothing is said of that or there is a summary.  Every alternative signature
has the descriptions of its own docstring if that has a summary, and else those that the
docstring of its callable repeats.
-/
theorem descriptions_reach_signatures
    (options : Options)
    (modules : List ApiObject) :
    Throughout
      (fun around facts joined node =>
        ∃ own added, node.signatures = own ++ added ∧
          List.Forall₂ (OwnDescribed around) (ownSignature facts node) own ∧
          List.Forall₂ (AlternativeDescribed (docstringWithin around facts)) joined
            added)
      [] modules (assemble options modules).1 := by
  refine (described_assemble options modules).imp ?_
  intro around facts joined node described
  obtain ⟨own, added, signaturesEq, ownSigned, addedSigned⟩ := described.signatures_eq
  refine ⟨own, added, signaturesEq, ?_,
    addedSigned.imp fun _ _ => alternativeDescribed_of_signature⟩
  cases isCallable : node.kind.isCallable with
  | true =>
      rw [ownSignature_of_callable isCallable] at ownSigned ⊢
      obtain ⟨signature, rest, isSignature, restSigned, rfl⟩ :=
        List.forall₂_cons_left_iff.mp ownSigned
      obtain rfl := List.forall₂_nil_left_iff.mp restSigned
      exact .cons (ownDescribed_of_signature isSignature) .nil
  | false =>
      rw [ownSignature_of_not_callable isCallable] at ownSigned ⊢
      obtain rfl := List.forall₂_nil_left_iff.mp ownSigned
      exact .nil

/-- A function that says what it returns and has no summary. -/
def returningFacts : Facts :=
  { name := "f"
    tag := "function"
    docstring := some "\x7b\"content\": [\x7b\"Returns\": [\"The size\"]\x7d]\x7d" }

/-- An alternative signature that describes its parameter and has no summary. -/
def describingOverload : Facts :=
  { name := "g"
    tag := "function"
    decorators := [⟨"overload", none⟩]
    docstring := some (describing "x" "The input")
    arguments := [{ name := "x" }] }

/-- A function with this alternative signature. -/
def describedModules : List ApiObject :=
  [.mk { name := "g", tag := "function" } [], .mk describingOverload []]

/-- What a function without a summary returns is dropped. -/
theorem not_keepsDescriptions_returning :
    ¬ KeepsDescriptions {} [.mk returningFacts []] := by
  intro keeps
  have role : roleOf returningFacts = .declaration := by
    decide +kernel
  have isReturned :
      (Docstring.parse returningFacts.docstringText).returns = some "The size" := by
    decide +kernel
  have made : ((assemble {} [.mk returningFacts []]).1.children[0]?).map
      (fun child => (child.kind.isCallable, child.signatures.map (·.info.comment))) =
        some (true, [none]) := by
    decide +kernel
  obtain ⟨child, isChild, kept⟩ := keeps.exists_member 0 <|
    show _ = some (.mk returningFacts []) by simp [declaringAmong, declaring, role]
  rw [isChild, Option.map_some, Option.some.injEq, Prod.mk.injEq] at made
  obtain ⟨isCallable, commentsEq⟩ := made
  obtain ⟨signature, isSignature, noComment⟩ :=
    List.map_eq_singleton_iff.mp commentsEq
  rw [ownSignature_of_callable isCallable, isSignature, List.singleton_append,
    List.forall₂_cons] at kept
  obtain ⟨comment, isComment, -⟩ := kept.1.2 _ isReturned
  cases noComment.symm.trans isComment

/-- The description of a parameter is dropped for what the callable does not say. -/
theorem not_keepsDescriptions_describing :
    ¬ KeepsDescriptions {} describedModules := by
  intro keeps
  have role : roleOf { name := "g", tag := "function" } = .declaration := by
    decide +kernel
  have overloadRole : roleOf describingOverload = .alternative := by
    decide +kernel
  have isDescribed :
      (Docstring.parse describingOverload.docstringText).parameter? "x" =
        some "The input" := by
    decide +kernel
  have joins :
      joinsAt (assemble {} describedModules).1.children 0 describingOverload =
        true := by
    decide +kernel
  have made : ((assemble {} describedModules).1.children[0]?).map
      (fun child => (child.kind.isCallable,
        child.signatures.map fun signature =>
          signature.parameters.map (·.info.comment))) =
        some (true, [[], [none]]) := by
    decide +kernel
  obtain ⟨child, isChild, kept⟩ := keeps.exists_member 0 <|
    show _ = some (.mk { name := "g", tag := "function" } []) by
      simp [describedModules, declaringAmong, declaring, role]
  rw [isChild, Option.map_some, Option.some.injEq, Prod.mk.injEq] at made
  obtain ⟨isCallable, commentsEq⟩ := made
  have waiting : (waitingAmong describedModules).filter
      (joinsAt (assemble {} describedModules).1.children 0) =
        [describingOverload] := by
    rw [describedModules] at joins ⊢
    simp [waitingAmong, waiting, role, overloadRole, joins]
  obtain ⟨own, others, signaturesEq, -, othersEq⟩ :=
    List.map_eq_cons_iff.mp commentsEq
  obtain ⟨signature, rfl, parametersEq⟩ := List.map_eq_singleton_iff.mp othersEq
  obtain ⟨parameter, isParameter, noComment⟩ :=
    List.map_eq_singleton_iff.mp parametersEq
  rw [ownSignature_of_callable isCallable, waiting, signaturesEq,
    List.singleton_append, List.forall₂_cons, List.forall₂_cons] at kept
  obtain ⟨-, ⟨describes, -⟩, -⟩ := kept
  have arguments : describingOverload.arguments.filter (!·.isReceiver) =
      [{ name := "x" }] := by
    decide +kernel
  rw [DescribesParameters, arguments, isParameter, List.forall₂_cons] at describes
  cases noComment.symm.trans (describes.1 _ isDescribed)

/-- Descriptions are dropped for lack of a summary, in both ways. -/
theorem descriptions_are_dropped :
    ¬ KeepsDescriptions {} [.mk returningFacts []] ∧
      ¬ KeepsDescriptions {} describedModules :=
  ⟨not_keepsDescriptions_returning, not_keepsDescriptions_describing⟩

end ApiTree.Convert
