import ApiTree.Proofs.Convert.Overloads

namespace ApiTree.Convert

open ApiTree.Decl
open ApiTree.Dump (ApiObject Docstring Facts)

/-!
# Where documentation comes from

While objects are walked, the docstring of a class is at hand for the members inside
it.  This is the same as to look, for each member, through the declarations around it
for the innermost class: hidden objects and modules make no declaration, and of the
declarations only classes count.  So the comment of a declaration, and the docstring
that its signatures are made with, can be read off the dump and the kinds of the
declarations around.
-/

/-- A declaration around others: the object that made it, and its kind. -/
structure Layer where
  facts : Facts
  kind : Kind

/-- The docstring of the innermost class around. -/
def classDocstring? (around : List Layer) : Option Docstring :=
  (around.find? (·.kind == .classDecl)).map fun layer =>
    Docstring.parse layer.facts.docstringText

/-- What the innermost class around says about a name, if it says anything. -/
def classDescription?
    (around : List Layer)
    (name : String) :
    Option String :=
  ((classDocstring? around).bind fun docstring => docstring.parameter? name).filter
    (!·.isEmpty)

/-- The summary of an object: its own, or what the innermost class says about its name. -/
def summary?
    (around : List Layer)
    (facts : Facts) :
    Option String :=
  let own := Docstring.parse facts.docstringText
  if own.isEmpty then classDescription? around facts.name else some own.text

/-- The docstring of an object with the summary that it gets where it stands. -/
def docstringWithin
    (around : List Layer)
    (facts : Facts) :
    Docstring :=
  { Docstring.parse facts.docstringText with
    text := (summary? around facts).getD "" }

/-- The docstring of an alternative signature, given that of the callable it joins. -/
def alternativeDocstring
    (callable : Docstring)
    (overload : Facts) :
    Docstring :=
  let own := Docstring.parse overload.docstringText
  if own.isEmpty then callable else own

/-- A description is no empty text. -/
theorem isEmpty_of_classDescription?
    {around : List Layer}
    {name description : String}
    (describes : classDescription? around name = some description) :
    description.isEmpty = false := by
  simpa using (Option.filter_eq_some_iff.mp describes).2

/-- A summary is no empty text. -/
theorem isEmpty_of_summary?
    {around : List Layer}
    {facts : Facts}
    {text : String}
    (isSummary : summary? around facts = some text) :
    text.isEmpty = false := by
  simp only [summary?] at isSummary
  split at isSummary
  · exact isEmpty_of_classDescription? isSummary
  · rename_i notEmpty
    obtain rfl := Option.some.inj isSummary
    exact Bool.eq_false_iff.mpr notEmpty

/-- The docstring of an object is empty where it has no summary. -/
theorem isEmpty_docstringWithin
    (around : List Layer)
    (facts : Facts) :
    (docstringWithin around facts).isEmpty = (summary? around facts).isNone := by
  rw [docstringWithin, Docstring.isEmpty]
  cases isSummary : summary? around facts with
  | none => rfl
  | some text => exact isEmpty_of_summary? isSummary

/-- The comment of an object is its summary where it stands. -/
theorem summaryComment?_docstringWithin
    (around : List Layer)
    (facts : Facts) :
    summaryComment? (docstringWithin around facts) =
      (summary? around facts).map .ofSummary := by
  rw [summaryComment?, isEmpty_docstringWithin, docstringWithin]
  cases summary? around facts with
  | none => rfl
  | some text => rfl

/-- An empty text is as good as none. -/
theorem getD_filter_isEmpty (said : Option String) :
    (said.filter (!·.isEmpty)).getD "" = said.getD "" := by
  cases said with
  | none => rfl
  | some text =>
      rw [Option.filter_some]
      split
      · rfl
      · rename_i isBlank
        obtain rfl : text = "" := by simpa using isBlank
        rfl

/-! ## The class at hand -/

/-- That what is at hand at a site is what the innermost class around says. -/
def Fits
    (around : List Layer)
    (site : Site) :
    Prop :=
  ∀ name, (site.context.bind fun context => context.parameter? name) =
    (classDocstring? around).bind fun docstring => docstring.parameter? name

namespace Fits

variable
    {around : List Layer}
    {site : Site}

/-- Wrappers do not change what is at hand. -/
theorem of_context_eq
    {other : Site}
    (fits : Fits around site)
    (context_eq : other.context = site.context) :
    Fits around other := by
  intro name
  rw [context_eq]
  exact fits name

theorem enter
    (fits : Fits around site)
    (facts : Facts) :
    Fits around (site.enter facts) := by
  refine fits.of_context_eq ?_
  unfold Site.enter
  split <;> rfl

theorem within
    (fits : Fits around site)
    (facts : Facts) :
    Fits around (siteWithin site facts) := by
  refine fits.of_context_eq ?_
  unfold siteWithin
  split <;> rfl

/-- The docstring of an object depends on the declarations around it only. -/
theorem docstringAt_eq
    (fits : Fits around site)
    (facts : Facts) :
    docstringAt site facts = docstringWithin around facts := by
  simp only [docstringAt, docstringWithin, summary?, classDescription?,
    fits facts.name]
  split
  · rename_i isEmpty
    have noText : (Docstring.parse facts.docstringText).text = "" := by
      simpa [Docstring.isEmpty] using isEmpty
    rw [getD_filter_isEmpty]
    split
    · rename_i said
      rw [said, Option.getD_some]
    · rename_i unsaid
      rw [unsaid, Option.getD_none, ← noText]
  · rfl

/-- Inside a class its own docstring is at hand, inside anything else the same as before. -/
theorem inside
    (fits : Fits around site)
    (facts : Facts)
    (node : Declaration) :
    Fits (⟨facts, node.kind⟩ :: around) (Assembly.siteInside site facts node) := by
  intro name
  unfold Assembly.siteInside
  split
  · rename_i isClass
    simp only [Option.bind_some, fits.docstringAt_eq, classDocstring?, isClass,
      List.find?_cons, beq_self_eq_true]
    rfl
  · rename_i notClass
    rw [classDocstring?, List.find?_cons_of_neg (by simpa using notClass)]
    exact fits name

end Fits

/-! ## Members in their places -/

/--
That something holds of every member below a declaration, given the declarations
around the member, the innermost first, the object that made it and the alternative
signatures that join it.  Each declaration among the objects made the member at its
place, and nothing else made any.
-/
inductive Throughout
    (holds : List Layer → Facts → List Facts → Declaration → Prop) :
    List Layer → List ApiObject → Declaration → Prop where
  | intro
      {around : List Layer}
      {objects : List ApiObject}
      {node : Declaration}
      (length_eq : node.children.length = (declaringAmong objects).length)
      (each : ∀ (position : Nat) (object : ApiObject) child,
        (declaringAmong objects)[position]? = some object →
          node.children[position]? = some child →
            holds around object.facts
              ((waitingAmong objects).filter (joinsAt node.children position))
              child)
      (inside : ∀ (position : Nat) (object : ApiObject) child,
        (declaringAmong objects)[position]? = some object →
          node.children[position]? = some child →
            Throughout holds (⟨object.facts, child.kind⟩ :: around)
              object.members child) :
      Throughout holds around objects node

namespace Throughout

variable
    {holds : List Layer → Facts → List Facts → Declaration → Prop}
    {around : List Layer}
    {objects : List ApiObject}

theorem imp
    {implied : List Layer → Facts → List Facts → Declaration → Prop}
    (implies : ∀ around facts joined node,
      holds around facts joined node → implied around facts joined node)
    {node : Declaration}
    (throughout : Throughout holds around objects node) :
    Throughout implied around objects node := by
  induction throughout with
  | intro lengthEq each _ inductionHypothesis =>
      refine .intro lengthEq ?_ inductionHypothesis
      intro position object child isObject isChild
      exact implies _ _ _ _ (each position object child isObject isChild)

/-- What holds throughout holds of the member that an object made. -/
theorem exists_member
    {node : Declaration}
    {object : ApiObject}
    (throughout : Throughout holds around objects node)
    (position : Nat)
    (isObject : (declaringAmong objects)[position]? = some object) :
    ∃ child, node.children[position]? = some child ∧
      holds around object.facts
        ((waitingAmong objects).filter (joinsAt node.children position)) child := by
  cases throughout with
  | intro lengthEq each _ =>
      obtain ⟨inside, -⟩ := List.getElem?_eq_some_iff.mp isObject
      have isChild := List.getElem?_eq_getElem (lengthEq ▸ inside)
      exact ⟨_, isChild, each position object _ isObject isChild⟩

/-- What holds below a declaration depends on its members only. -/
theorem of_children_eq
    {before after : Declaration}
    (throughout : Throughout holds around objects before)
    (children_eq : after.children = before.children) :
    Throughout holds around objects after := by
  cases throughout with
  | intro lengthEq each inside =>
      rw [← children_eq] at lengthEq each inside
      exact .intro lengthEq each inside

end Throughout

/-- What a member has from the object that made it and from what joined it. -/
structure Described
    (around : List Layer)
    (facts : Facts)
    (joined : List Facts)
    (node : Declaration) :
    Prop where
  name_eq : node.name = facts.displayName
  comment_eq : node.info.comment = (summary? around facts).map .ofSummary
  signatures_eq : ∃ own added, node.signatures = own ++ added ∧
    List.Forall₂ (IsSignatureWith (docstringWithin around facts))
      (ownSignature facts node) own ∧
    List.Forall₂
      (fun overload => IsSignatureWith
        (alternativeDocstring (docstringWithin around facts) overload) overload)
      joined added

/-- What is like a declaration that was begun is described before anything joins it. -/
theorem Described.of_begins
    {around : List Layer}
    {facts : Facts}
    {before : Assembly}
    {begun : Declaration × Assembly}
    {node : Declaration}
    (begins : Assembly.Begins facts (docstringWithin around facts) before begun)
    (name_eq : node.name = begun.1.name)
    (kind_eq : node.kind = begun.1.kind)
    (comment_eq : node.info.comment = begun.1.info.comment)
    (signatures_eq : node.signatures = begun.1.signatures) :
    Described around facts [] node where
  name_eq := name_eq.trans begins.name_eq
  comment_eq := comment_eq.trans <|
    begins.comment_eq.trans (summaryComment?_docstringWithin around facts)
  signatures_eq := by
    refine ⟨node.signatures, [], (List.append_nil _).symm, ?_, .nil⟩
    rw [ownSignature, kind_eq, signatures_eq]
    exact begins.signed

/-- That a member was made at its place, and that its docstring is kept if need be. -/
structure Documented
    (around : List Layer)
    (assembly : Assembly)
    (object : ApiObject)
    (node : Declaration) :
    Prop where
  described : Described around object.facts [] node
  inside : Throughout Described (⟨object.facts, node.kind⟩ :: around)
    object.members node
  isOld : node.id < assembly.supply.next
  kept : node.kind.isCallable = true →
    assembly.docstrings.lookup node.id = some (docstringWithin around object.facts)

/-- What is known of a member stays true while more is collected. -/
theorem Documented.later
    {around : List Layer}
    {before after : Assembly}
    {object : ApiObject}
    {node : Declaration}
    (documented : Documented around before object node)
    (next_le : before.supply.next ≤ after.supply.next)
    (keeps : ∀ id < before.supply.next,
      after.docstrings.lookup id = before.docstrings.lookup id) :
    Documented around after object node where
  described := documented.described
  inside := documented.inside
  isOld := Nat.lt_of_lt_of_le documented.isOld next_le
  kept isCallable := (keeps _ documented.isOld).trans (documented.kept isCallable)

/-- Only callables are joined. -/
theorem filter_joinsAt_eq_nil
    {members : List Declaration}
    {position : Nat}
    {child : Declaration}
    (found : members[position]? = some child)
    (notCallable : child.kind.isCallable = false)
    (overloads : List Facts) :
    overloads.filter (joinsAt members position) = [] := by
  refine List.filter_eq_nil_iff.mpr fun overload _ joins => ?_
  obtain ⟨front, callable, back, rfl, rfl, ⟨isCallable, -⟩, -⟩ :=
    callablePosition?_eq_some_iff.mp (by simpa [joinsAt] using joins)
  rw [List.getElem?_append_right (Nat.le_refl _), Nat.sub_self,
    List.getElem?_cons_zero, Option.some.injEq] at found
  rw [found, notCallable] at isCallable
  cases isCallable

/-- A member that was made is described with what joined it as well. -/
theorem Documented.described_of_signed
    {around : List Layer}
    {assembly before : Assembly}
    {object : ApiObject}
    {child merged : Declaration}
    {joined : List Facts}
    (documented : Documented around assembly object child)
    (docstrings_eq : before.docstrings = assembly.docstrings)
    (signed : Signed (fun overload => before.overloadDocstring overload child.id)
      joined child merged)
    (unjoined : child.kind.isCallable = false → joined = []) :
    Described around object.facts joined merged := by
  obtain ⟨added, signaturesEq, addedSigned⟩ := signed.signatures_eq
  obtain ⟨own, others, ownEq, ownSigned, noneJoined⟩ :=
    documented.described.signatures_eq
  obtain rfl := List.forall₂_nil_left_iff.mp noneJoined
  rw [List.append_nil] at ownEq
  have sameKind : merged.kind = child.kind := congrArg Info.kind signed.info_eq
  refine
    { name_eq :=
        (congrArg Info.name signed.info_eq).trans documented.described.name_eq
      comment_eq :=
        (congrArg Info.comment signed.info_eq).trans documented.described.comment_eq
      signatures_eq := ⟨own, added, by rw [signaturesEq, ownEq], ?_, ?_⟩ }
  · rw [ownSignature, sameKind]
    exact ownSigned
  · cases isCallable : child.kind.isCallable with
    | false =>
        rw [unjoined isCallable] at addedSigned ⊢
        obtain rfl := List.forall₂_nil_left_iff.mp addedSigned
        exact .nil
    | true =>
        have sameDocstring (overload : Facts) :
            before.overloadDocstring overload child.id =
              alternativeDocstring (docstringWithin around object.facts)
                overload := by
          rw [Assembly.overloadDocstring, docstrings_eq,
            documented.kept isCallable]
          rfl
        simp only [sameDocstring] at addedSigned
        exact addedSigned

/-- When all that waited have joined, everything below a declaration is described. -/
theorem throughout_of_merged
    {around : List Layer}
    {objects : List ApiObject}
    {node : Declaration}
    {assembly before : Assembly}
    {result : Declaration × Assembly}
    (merged : Merged (waitingAmong objects) node before result)
    (docstrings_eq : before.docstrings = assembly.docstrings)
    (documented : List.Forall₂ (Documented around assembly)
      (declaringAmong objects) node.children) :
    Throughout Described around objects result.1 := by
  -- The members are those that were made, each with what joined it.
  have made (position : Nat) (object : ApiObject) (changed : Declaration)
      (isObject : (declaringAmong objects)[position]? = some object)
      (isChanged : result.1.children[position]? = some changed) :
      ∃ child, node.children[position]? = some child ∧
        Documented around assembly object child ∧
        Signed (fun overload => before.overloadDocstring overload child.id)
          ((waitingAmong objects).filter (joinsAt node.children position)) child
          changed := by
    obtain ⟨inside, rfl⟩ := List.getElem?_eq_some_iff.mp isObject
    have within : position < node.children.length := documented.length_eq ▸ inside
    refine ⟨node.children[position], List.getElem?_eq_getElem within, ?_,
      merged.children_signed position _ changed (List.getElem?_eq_getElem within)
        isChanged⟩
    exact documented.get inside within
  refine .intro (merged.length_eq.trans documented.length_eq.symm) ?_ ?_
  · intro position object changed isObject isChanged
    obtain ⟨child, isChild, isDocumented, signed⟩ :=
      made position object changed isObject isChanged
    rw [merged.joinsAt_children]
    exact isDocumented.described_of_signed docstrings_eq signed
      fun notCallable => filter_joinsAt_eq_nil isChild notCallable _
  · intro position object changed isObject isChanged
    obtain ⟨child, -, isDocumented, signed⟩ :=
      made position object changed isObject isChanged
    have sameKind : changed.kind = child.kind := congrArg Info.kind signed.info_eq
    rw [sameKind]
    exact isDocumented.inside.of_children_eq signed.children_eq

/-! ## The walk -/

/-- Completing a declaration keeps its docstring if it is callable, and no other. -/
theorem Assembly.docstrings_complete
    (facts : Facts)
    (docstring : Docstring)
    (owner : Owner)
    (assembly : Assembly) :
    let completed := assembly.complete facts docstring owner
    completed.2.docstrings =
      if completed.1.kind.isCallable then
        (owner.node.id, docstring) :: assembly.docstrings
      else
        assembly.docstrings := by
  have merged (based : Assembly)
      (basedEq : based.docstrings = assembly.docstrings) :
      (based.mergeOverloads owner.overloads owner.node).2.docstrings =
        assembly.docstrings :=
    (merged_mergeOverloads _ _ based).docstrings_eq.trans basedEq
  simp only [complete]
  split <;> split
  · exact congrArg (List.cons _) (merged (assembly.addBases _ _) rfl)
  · exact merged (assembly.addBases _ _) rfl
  · exact congrArg (List.cons _) (merged assembly rfl)
  · exact merged assembly rfl

/-- A member joins its owner, whose comment stays. -/
theorem Assembly.joined_closed
    (usesGroups : Bool)
    (here : Site)
    (facts : Facts)
    (owner : Owner)
    (inside : Owner × Assembly) :
    let completed := inside.2.complete facts (docstringAt here facts) inside.1
    let closed := Assembly.closed usesGroups here facts owner inside
    closed.1.node.info.comment = owner.node.info.comment ∧
      closed.1.node.children =
        owner.node.children ++ [completed.1.sortMembers] := by
  obtain ⟨groups, entered⟩ := exists_enterGroup_eq usesGroups
    (inside.2.complete facts (docstringAt here facts) inside.1).1 owner.node
  simp only [Assembly.closed, entered]
  cases owner.node
  exact ⟨rfl, rfl⟩

/-- What walking objects at a site does to docstrings and to the members of the owner. -/
structure Documents
    (site : Site)
    (objects : List ApiObject)
    (before after : Owner × Assembly) :
    Prop where
  registers : Registers before after
  gathers : Gathers objects before after
  comment_eq : after.1.node.info.comment = before.1.node.info.comment
  keeps : ∀ id < before.2.supply.next,
    after.2.docstrings.lookup id = before.2.docstrings.lookup id
  documented : ∀ around, Fits around site →
    ∃ members, after.1.node.children = before.1.node.children ++ members ∧
      List.Forall₂ (Documented around after.2) (declaringAmong objects) members

namespace Documents

variable
    {site : Site}
    {objects : List ApiObject}

/-- Nothing is documented where no member is made. -/
theorem of_nothing
    {before after : Owner × Assembly}
    (registers : Registers before after)
    (gathers : Gathers objects before after)
    (node_eq : after.1.node = before.1.node)
    (docstrings_eq : after.2.docstrings = before.2.docstrings)
    (declaring_eq : declaringAmong objects = []) :
    Documents site objects before after where
  registers := registers
  gathers := gathers
  comment_eq := by rw [node_eq]
  keeps _ _ := by rw [docstrings_eq]
  documented _ _ :=
    ⟨[], by rw [node_eq, List.append_nil], by rw [declaring_eq]; exact .nil⟩

theorem append
    {others : List ApiObject}
    {first second third : Owner × Assembly}
    (firstStep : Documents site objects first second)
    (secondStep : Documents site others second third) :
    Documents site (objects ++ others) first third where
  registers := firstStep.registers.trans secondStep.registers
  gathers := firstStep.gathers.append secondStep.gathers
  comment_eq := secondStep.comment_eq.trans firstStep.comment_eq
  keeps id isOld :=
    (secondStep.keeps id
      (Nat.lt_of_lt_of_le isOld firstStep.registers.next_le)).trans
      (firstStep.keeps id isOld)
  documented := by
    intro around fits
    obtain ⟨firstMembers, firstEq, firstDocumented⟩ :=
      firstStep.documented around fits
    obtain ⟨secondMembers, secondEq, secondDocumented⟩ :=
      secondStep.documented around fits
    refine ⟨firstMembers ++ secondMembers, ?_, ?_⟩
    · rw [secondEq, firstEq, List.append_assoc]
    · rw [declaringAmong_append]
      exact List.rel_append
        (firstDocumented.imp fun _ _ documented =>
          documented.later secondStep.registers.next_le secondStep.keeps)
        secondDocumented

/-- Once all that wait have joined, everything below the owner is described. -/
theorem throughout
    {before after : Owner × Assembly}
    {based : Assembly}
    {around : List Layer}
    (documents : Documents site objects before after)
    (fits : Fits around site)
    (memberless : before.1.node.children = [])
    (unwaited : before.1.overloads = [])
    (docstrings_eq : based.docstrings = after.2.docstrings) :
    Throughout Described around objects
      (based.mergeOverloads after.1.overloads after.1.node).1 := by
  obtain ⟨members, childrenEq, documented⟩ := documents.documented around fits
  have waiting : after.1.overloads = waitingAmong objects := by
    rw [documents.gathers.overloads_eq, unwaited, List.nil_append]
  rw [memberless, List.nil_append] at childrenEq
  rw [waiting]
  exact throughout_of_merged (Assembly.merged_mergeOverloads _ _ _) docstrings_eq
    (childrenEq ▸ documented)

section

variable
    {options : Options}
    {here : Site}
    {facts : Facts}
    {members : List ApiObject}
    {ownerKind : Kind}
    {assembly : Assembly}
    {inside : Owner × Assembly}

/-- A declaration whose members are walked is documented when it is completed. -/
theorem documented_complete
    {around : List Layer}
    (steps :
      let opened := assembly.opened options here facts ownerKind
      Documents (Assembly.siteInside here facts opened.1.node) members opened
        inside)
    (fits : Fits around here) :
    let completed := inside.2.complete facts (docstringAt here facts) inside.1
    Documented around completed.2 (.mk facts members) completed.1.sortMembers := by
  have begins : Assembly.Begins facts (docstringWithin around facts) assembly
      (assembly.declaration options here ownerKind facts
        (docstringAt here facts)) := by
    rw [← fits.docstringAt_eq]
    exact (Assembly.making_declaration options here ownerKind facts _ _).begins
  have completing :=
    Assembly.covers_complete facts (docstringAt here facts) inside.1 inside.2
  have docstringsEq :=
    Assembly.docstrings_complete facts (docstringAt here facts) inside.1 inside.2
  obtain ⟨based, -, basedEq, memberEq, -⟩ :=
    Assembly.exists_merged_complete facts (docstringAt here facts) inside.1 inside.2
  have merged :=
    Assembly.merged_mergeOverloads inside.1.overloads inside.1.node based
  have infoEq := merged.info_eq
  have signaturesEq := merged.signatures_eq
  have throughout :=
    steps.throughout (fits.inside facts _) begins.children_eq rfl basedEq
  rw [← memberEq] at infoEq signaturesEq throughout
  dsimp only at docstringsEq ⊢
  generalize inside.2.complete facts (docstringAt here facts) inside.1 = completed
    at completing throughout infoEq signaturesEq docstringsEq ⊢
  have sameId : completed.1.id = inside.1.node.id := congrArg Info.id infoEq
  have sameKind : completed.1.kind =
      (assembly.opened options here facts ownerKind).1.node.kind :=
    (congrArg Info.kind infoEq).trans steps.registers.kind_eq
  have described : Described around facts [] completed.1 :=
    .of_begins begins
      ((congrArg Info.name infoEq).trans steps.registers.name_eq) sameKind
      ((congrArg Info.comment infoEq).trans steps.comment_eq)
      (signaturesEq.trans steps.gathers.signatures_eq)
  have isOld : completed.1.id < completed.2.supply.next := by
    rw [sameId, steps.registers.id_eq]
    exact Nat.lt_of_lt_of_le (Assembly.id_declaration_lt _ _ _ _ _ _)
      (Nat.le_trans steps.registers.next_le completing.le)
  have kept (isCallable : completed.1.kind.isCallable = true) :
      completed.2.docstrings.lookup completed.1.id =
        some (docstringWithin around facts) := by
    rw [docstringsEq, if_pos isCallable, sameId, List.lookup_cons_self,
      fits.docstringAt_eq]
  rw [← sameKind] at throughout
  -- Ordering the groups changes nothing of all this.
  obtain ⟨⟨info, children, signatures, parameters⟩, after⟩ := completed
  exact
    { described :=
        ⟨described.name_eq, described.comment_eq, described.signatures_eq⟩
      inside := throughout.of_children_eq rfl
      isOld := isOld
      kept := kept }

end

/-- A declaration is documented once what its members document is. -/
theorem closed
    {options : Options}
    {usesGroups : Bool}
    {facts : Facts}
    {members : List ApiObject}
    {owner : Owner}
    {assembly : Assembly}
    {inside : Owner × Assembly}
    (role : roleOf facts = .declaration)
    (steps :
      let here := site.enter facts
      let opened := assembly.opened options here facts owner.node.kind
      Documents (Assembly.siteInside here facts opened.1.node) members opened
        inside) :
    Documents site [.mk facts members] (owner, assembly)
      (Assembly.closed usesGroups (site.enter facts) facts owner inside) := by
  have begins := (Assembly.making_declaration options (site.enter facts)
    owner.node.kind facts (docstringAt (site.enter facts) facts) assembly).begins
  have made := Assembly.covers_declaration options (site.enter facts)
    owner.node.kind facts (docstringAt (site.enter facts) facts) assembly
  have declares := Assembly.declares_declaration options (site.enter facts)
    owner.node.kind facts (docstringAt (site.enter facts) facts) assembly
  have docstringsEq := Assembly.docstrings_complete facts
    (docstringAt (site.enter facts) facts) inside.1 inside.2
  have declaringEq : declaringAmong [.mk facts members] = [.mk facts members] := by
    simp [declaringAmong, declaring, role]
  obtain ⟨commentEq, childrenEq⟩ :=
    Assembly.joined_closed usesGroups (site.enter facts) facts owner inside
  refine
    { registers := .closed steps.registers
      gathers := (roleLaw_gathers options usesGroups).declares _ _ _ _ _ _ role
        steps.gathers
      comment_eq := commentEq
      keeps := ?_
      documented := ?_ }
  · intro id isOld
    have before : inside.2.docstrings.lookup id = assembly.docstrings.lookup id := by
      rw [steps.keeps id (Nat.lt_of_lt_of_le isOld made.le)]
      exact congrArg _ begins.docstrings_eq
    have isOther : (id == inside.1.node.id) = false := by
      rw [steps.registers.id_eq, beq_eq_false_iff_ne]
      exact declares.id_eq ▸ Nat.ne_of_lt isOld
    simp only [Assembly.closed, docstringsEq]
    split
    · rw [List.lookup_cons, isOther]
      exact before
    · exact before
  · intro around fits
    refine ⟨_, childrenEq, ?_⟩
    rw [declaringEq]
    exact .cons (steps.documented_complete (fits.enter facts)) .nil

end Documents

/-- The walk of objects documents what they make. -/
theorem siteLaw_documents
    (options : Options)
    (usesGroups : Bool) :
    SiteLaw options usesGroups Documents where
  nil _ _ := .of_nothing (.of_same rfl rfl rfl) (.of_nothing rfl rfl rfl) rfl rfl rfl
  cons _ _ _ _ _ _ firstStep restSteps := firstStep.append restSteps
  opens site facts members before after role inside := by
    have sameDeclaring :
        declaringAmong [.mk facts members] = declaringAmong members := by
      simp [declaringAmong, declaring, role]
    exact
      { inside with
        gathers := (roleLaw_gathers options usesGroups).opens _ _ _ _ role
          inside.gathers
        documented := fun around fits => sameDeclaring ▸
          inside.documented around ((fits.enter facts).within facts) }
  addsAlias site facts members owner assembly role :=
    .of_nothing (.of_same rfl rfl rfl)
      ((roleLaw_gathers options usesGroups).addsAlias _ _ _ _ role) rfl rfl
      (by simp [declaringAmong, declaring, role])
  waits site facts members owner assembly role :=
    .of_nothing (.of_same rfl rfl rfl)
      ((roleLaw_gathers options usesGroups).waits _ _ _ _ role) rfl rfl
      (by simp [declaringAmong, declaring, role])
  declares _ _ _ _ _ _ role steps := .closed role steps

/-- Everything below a project is described by its modules. -/
theorem described_assemble
    (options : Options)
    (modules : List ApiObject) :
    Throughout Described [] modules (assemble options modules).1 :=
  ((siteLaw_documents options
      (ApiObject.anyMentions groupDecorator modules)).walkAll modules {}
        ({ node := emptyRoot options }, {})).throughout
    (fun _ => rfl) rfl rfl rfl

/-- The text of a docstring that describes one parameter and has no summary. -/
def describing (parameter description : String) : String :=
  "\x7b\"content\": [\x7b\"Arguments\": [\x7b\"param\": \"" ++ parameter ++
    "\", \"desc\": \"" ++ description ++ "\"\x7d]\x7d]\x7d"

/--
The comment of a declaration is the summary of its own docstring, or else what the
innermost class around it says about its name, and there is none if neither has a text.
Around a declaration are those that own it in the tree: hidden objects and modules are
not among these, and enumerations and callables are passed over.
-/
theorem comments_are_own_or_of_class
    (options : Options)
    (modules : List ApiObject) :
    Throughout
      (fun around facts _ node =>
        node.name = facts.displayName ∧
          node.info.comment = (summary? around facts).map .ofSummary)
      [] modules (assemble options modules).1 :=
  (described_assemble options modules).imp fun _ _ _ _ described =>
    ⟨described.name_eq, described.comment_eq⟩

/-- A constant of an enumeration inside a class is described by the class. -/
example :
    let queue : ApiObject :=
      .mk { name := "Queue", tag := "class", docstring := some (describing "FAST" "Quick") }
        [.mk { name := "Mode", tag := "enum" }
          [.mk { name := "FAST", tag := "enumValue" } []]]
    ((assemble {} [queue]).1.descendant? [0, 0, 0]).map (·.info.comment) =
      some (some (.ofSummary "Quick")) := by
  decide +kernel

end ApiTree.Convert
