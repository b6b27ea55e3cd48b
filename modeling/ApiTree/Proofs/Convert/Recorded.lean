import ApiTree.Proofs.Convert.Declared
import ApiTree.Proofs.Decl.Everywhere
import ApiTree.Proofs.Decl.Symbols
import ApiTree.Proofs.Hierarchy.Evolution

namespace ApiTree.Convert

open ApiTree.Decl
open ApiTree.Dump (ApiObject Argument Docstring Facts)

/-!
# Symbols of assembled declarations

Each number that is taken is recorded with the name of the node that gets it, and
nothing is recorded under a number that is not taken.  So after the walk every
node of the assembled tree but the project is known by its name.
-/

namespace Assembly

/-- What was collected before is still known, and what is new has new numbers. -/
structure Collects (before after : Assembly) : Prop where
  next_le : before.supply.next ≤ after.supply.next
  lookup_eq : ∀ number, number < before.supply.next →
    after.symbols.lookup number = before.symbols.lookup number
  numbers : ∀ number ∈ after.symbols.numbers,
    number ∈ before.symbols.numbers ∨ before.supply.next ≤ number
  ordered : before.symbols.Ordered → after.symbols.Ordered

namespace Collects

variable
    {before middle after : Assembly}

/-- A step that records nothing. -/
theorem of_symbols_eq
    (nextLe : before.supply.next ≤ after.supply.next)
    (symbolsEq : after.symbols = before.symbols) :
    Collects before after where
  next_le := nextLe
  lookup_eq _ _ := by rw [symbolsEq]
  numbers _ isNumber := .inl (symbolsEq ▸ isNumber)
  ordered isOrdered := symbolsEq ▸ isOrdered

theorem refl (assembly : Assembly) : Collects assembly assembly :=
  of_symbols_eq (Nat.le_refl _) rfl

theorem trans
    (first : Collects before middle)
    (second : Collects middle after) :
    Collects before after where
  next_le := Nat.le_trans first.next_le second.next_le
  lookup_eq number isTaken :=
    (second.lookup_eq number (Nat.lt_of_lt_of_le isTaken first.next_le)).trans
      (first.lookup_eq number isTaken)
  numbers number isNumber := by
    rcases second.numbers number isNumber with inMiddle | isNew
    · exact first.numbers number inMiddle
    · exact .inr (Nat.le_trans first.next_le isNew)
  ordered isOrdered := second.ordered (first.ordered isOrdered)

/-- Recording a number that was not taken before. -/
theorem recordSymbol
    {id : DeclId}
    (collects : Collects before after)
    (isNew : before.supply.next ≤ id)
    (name file : String) :
    Collects before (after.recordSymbol id name file) where
  next_le := collects.next_le
  lookup_eq number isTaken := by
    have differs : number ≠ id := Nat.ne_of_lt (Nat.lt_of_lt_of_le isTaken isNew)
    exact (SymbolTable.lookup_record_of_ne differs).trans
      (collects.lookup_eq number isTaken)
  numbers number isNumber := by
    rcases SymbolTable.mem_numbers_record_iff.mp isNumber with rfl | wasNumber
    · exact .inr isNew
    · exact collects.numbers number wasNumber
  ordered isOrdered := (collects.ordered isOrdered).record

/-- Making a declaration known records its number. -/
theorem declareName
    {id : DeclId}
    (collects : Collects before after)
    (isNew : before.supply.next ≤ id)
    (name file : String) :
    Collects before (after.declareName id name file) := by
  have known : Collects before
      { after with declared := (name, id) :: after.declared } :=
    collects.trans (.of_symbols_eq (Nat.le_refl _) rfl)
  exact known.recordSymbol isNew name file

theorem recordSymbols
    {nodes : List Declaration}
    (collects : Collects before after)
    (areNew : ∀ node ∈ nodes, before.supply.next ≤ node.id)
    (file : String) :
    Collects before
      (nodes.foldl
        (fun assembly node => assembly.recordSymbol node.id node.name file)
        after) := by
  induction nodes generalizing after with
  | nil =>
      exact collects
  | cons first rest inductionHypothesis =>
      obtain ⟨firstNew, restNew⟩ := List.forall_mem_cons.mp areNew
      exact inductionHypothesis (collects.recordSymbol firstNew _ _) restNew

end Collects

/-- Nodes of different numbers are known by their names once they are recorded. -/
theorem knows_recordSymbols
    {nodes : List Declaration}
    (distinct : (nodes.map Declaration.id).Nodup)
    (file : String)
    (assembly : Assembly) :
    let recorded :=
      nodes.foldl
        (fun assembly node => assembly.recordSymbol node.id node.name file)
        assembly
    (∀ node ∈ nodes, recorded.symbols.Knows node.info) ∧
      ∀ number, number ∉ nodes.map Declaration.id →
        recorded.symbols.lookup number = assembly.symbols.lookup number := by
  induction nodes generalizing assembly with
  | nil =>
      exact ⟨List.forall_mem_nil _, fun _ _ => rfl⟩
  | cons first rest inductionHypothesis =>
      obtain ⟨firstApart, restDistinct⟩ := List.nodup_cons.mp distinct
      obtain ⟨restKnown, elsewhere⟩ := inductionHypothesis restDistinct
        (assembly.recordSymbol first.id first.name file)
      refine ⟨List.forall_mem_cons.mpr ⟨?_, restKnown⟩, ?_⟩
      · have firstKnown :
            (assembly.recordSymbol first.id first.name file).symbols.Knows
              first.info :=
          SymbolTable.knows_record rfl
        exact firstKnown.of_lookup_eq (elsewhere first.id firstApart) rfl
      · intro number isApart
        obtain ⟨notFirst, notInRest⟩ := not_or.mp (mt List.mem_cons.mpr isApart)
        exact (elsewhere number notInRest).trans
          (SymbolTable.lookup_record_of_ne notFirst)

/-- That a node got its number meanwhile and is known by its name. -/
structure Introduced
    (before after : Assembly)
    (info : Info) :
    Prop where
  le : before.supply.next ≤ info.id
  lt : info.id < after.supply.next
  knows : after.symbols.Knows info

namespace Introduced

variable
    {before middle after : Assembly}
    {info : Info}

theorem later
    (introduced : Introduced before middle info)
    (collects : Collects middle after) :
    Introduced before after info where
  le := introduced.le
  lt := Nat.lt_of_lt_of_le introduced.lt collects.next_le
  knows := introduced.knows.of_lookup_eq
    (collects.lookup_eq info.id introduced.lt) rfl

theorem earlier
    (introduced : Introduced middle after info)
    (collects : Collects before middle) :
    Introduced before after info :=
  { introduced with le := Nat.le_trans collects.next_le introduced.le }

theorem of_keeps
    {infos : List Info}
    (introduced : ∀ one ∈ infos, Introduced before after one)
    (keeps : Keeps infos info) :
    Introduced before after info := by
  obtain ⟨old, isOld, sameId, sameName⟩ := keeps
  have oldIntroduced := introduced old isOld
  exact
    { le := sameId ▸ oldIntroduced.le
      lt := sameId ▸ oldIntroduced.lt
      knows := oldIntroduced.knows.of_lookup_eq (by rw [sameId]) sameName.symm }

end Introduced

/-! ## Signatures -/

theorem symbols_parameters
    (docstring : Docstring)
    (arguments : List Argument)
    (assembly : Assembly) :
    (assembly.parameters docstring arguments).2.symbols = assembly.symbols := by
  induction arguments generalizing assembly with
  | nil =>
      rfl
  | cons argument rest inductionHypothesis =>
      exact inductionHypothesis (assembly.parameter docstring argument).2

/-- Parameters own nothing. -/
theorem nodes_parameters
    (docstring : Docstring)
    (arguments : List Argument)
    (assembly : Assembly) :
    (assembly.parameters docstring arguments).1.flatMap Declaration.nodes =
      (assembly.parameters docstring arguments).1 := by
  induction arguments generalizing assembly with
  | nil =>
      rfl
  | cons argument rest inductionHypothesis =>
      exact congrArg _
        (inductionHypothesis (assembly.parameter docstring argument).2)

theorem nodes_signature
    (facts : Facts)
    (docstring : Docstring)
    (name : String)
    (assembly : Assembly) :
    (assembly.signature facts docstring name).1.nodes =
      (assembly.signature facts docstring name).1 ::
        (assembly.signature facts docstring name).1.parameters := by
  rw [Declaration.nodes_eq_cons_owned]
  exact congrArg _ (nodes_parameters docstring _ _)

/-- A signature that is recorded is known with all its parameters. -/
theorem introduced_signature
    (facts : Facts)
    (docstring : Docstring)
    (name file : String)
    (assembly : Assembly) :
    let made := assembly.signature facts docstring name
    Collects assembly (made.2.recordSignature file made.1) ∧
      ∀ info ∈ made.1.infos,
        Introduced assembly (made.2.recordSignature file made.1) info := by
  have covers := covers_signature facts docstring name assembly
  have nodesEq := nodes_signature facts docstring name assembly
  have symbolsEq :
      (assembly.signature facts docstring name).2.symbols = assembly.symbols :=
    symbols_parameters docstring _ _
  generalize assembly.signature facts docstring name = made
    at covers nodesEq symbolsEq ⊢
  have taken (node : Declaration) (isNode : node ∈ made.1.nodes) :
      assembly.supply.next ≤ node.id ∧ node.id < made.2.supply.next := by
    rcases covers.mem_or_taken (List.mem_map_of_mem isNode) with was | isTaken
    · cases was
    · exact isTaken
  have distinct : (made.1.nodes.map Declaration.id).Nodup := by
    refine List.nodup_iff_count_le_one.mpr fun number => ?_
    refine Nat.le_trans (covers.count_le number) ?_
    rw [List.count_nil, timesTaken]
    split <;> decide
  simp only [recordSignature, ← nodesEq]
  have collects :=
    (Collects.of_symbols_eq covers.le symbolsEq).recordSymbols
      (fun node isNode => (taken node isNode).1) file
  refine ⟨collects, List.forall_mem_map.mpr fun node isNode => ?_⟩
  exact
    { le := (taken node isNode).1
      lt := by
        have same := supply_recordSignature file made.1 made.2
        simp only [recordSignature, ← nodesEq] at same
        rw [same]
        exact (taken node isNode).2
      knows := (knows_recordSymbols distinct file made.2).1 node isNode }

/-! ## Declarations -/

theorem mem_infos_addSignature_iff
    {declaration signature : Declaration}
    {info : Info} :
    info ∈ (declaration.addSignature signature).infos ↔
      info ∈ declaration.infos ∨ info ∈ signature.infos := by
  cases declaration
  simp only [Declaration.addSignature, Declaration.infos_node, List.mem_cons,
    List.mem_append, List.flatMap_append, List.flatMap_singleton]
  tauto

/-- A declaration that is made is known, with its signature. -/
theorem introduced_declaration
    (options : Options)
    (site : Site)
    (ownerKind : Kind)
    (facts : Facts)
    (docstring : Docstring)
    (assembly : Assembly) :
    let made := assembly.declaration options site ownerKind facts docstring
    Collects assembly made.2 ∧
      ∀ info ∈ made.1.infos, Introduced assembly made.2 info := by
  -- The declaration takes the next number, and its signature those after it.
  have typedSupply := supply_shapeType (Shape.of ownerKind facts) assembly
  have typedSymbols :
      (assembly.shapeType (Shape.of ownerKind facts)).2.symbols =
        assembly.symbols := by
    cases Shape.of ownerKind facts <;> rfl
  simp only [declaration]
  generalize assembly.shapeType (Shape.of ownerKind facts) = typed
    at typedSupply typedSymbols ⊢
  have isId : typed.2.takeId.1 = assembly.supply.next := by
    rw [fst_takeId, typedSupply]
  have numbered : Collects assembly typed.2.takeId.2 := by
    refine .of_symbols_eq ?_ typedSymbols
    rw [next_takeId, typedSupply]
    exact Nat.le_succ _
  have named :=
    numbered.declareName (Nat.le_of_eq isId.symm) facts.displayName
      (ApiTree.Text.erase options.repositoryRoot site.file)
  have introduced (info : Info) (sameId : info.id = typed.2.takeId.1)
      (sameName : info.name = facts.displayName) :
      Introduced assembly
        (typed.2.takeId.2.declareName typed.2.takeId.1 facts.displayName
          (ApiTree.Text.erase options.repositoryRoot site.file)) info := by
    refine
      { le := Nat.le_of_eq (sameId.trans isId).symm
        lt := ?_
        knows := ?_ }
    · rw [sameId, isId, supply_declareName, next_takeId, typedSupply]
      exact Nat.lt_succ_self _
    · rw [← sameId]
      exact SymbolTable.knows_record sameName.symm
  generalize typed.2.takeId.2.declareName typed.2.takeId.1 facts.displayName
    (ApiTree.Text.erase options.repositoryRoot site.file) = declared
    at named introduced ⊢
  split
  · obtain ⟨signed, signatureIntroduced⟩ :=
      introduced_signature facts docstring facts.displayName
        (ApiTree.Text.erase options.repositoryRoot site.file) declared
    refine ⟨named.trans signed, ?_⟩
    intro info isInfo
    dsimp only at isInfo
    rcases mem_infos_addSignature_iff.mp isInfo with isOwn | inSignature
    · obtain rfl := List.mem_singleton.mp isOwn
      exact (introduced _ rfl rfl).later signed
    · exact (signatureIntroduced info inSignature).earlier named
  · refine ⟨named, ?_⟩
    intro info isInfo
    obtain rfl := List.mem_singleton.mp isInfo
    exact introduced _ rfl rfl

/-- Each node afterwards was there before, or is known by its name. -/
structure Records
    (node : Declaration)
    (before : Assembly)
    (changed : Declaration)
    (after : Assembly) :
    Prop where
  collects : Collects before after
  infos : ∀ info ∈ changed.infos,
    Keeps node.infos info ∨ Introduced before after info

namespace Records

variable
    {node changed last : Declaration}
    {before middle after : Assembly}

theorem of_infos_eq
    (collects : Collects before after)
    (same : ∀ info ∈ changed.infos, Keeps node.infos info) :
    Records node before changed after :=
  ⟨collects, fun info isInfo => .inl (same info isInfo)⟩

theorem refl (node : Declaration) (assembly : Assembly) :
    Records node assembly node assembly :=
  of_infos_eq (.refl assembly) fun info isInfo => ⟨info, isInfo, rfl, rfl⟩

theorem trans
    (first : Records node before changed middle)
    (second : Records changed middle last after) :
    Records node before last after where
  collects := first.collects.trans second.collects
  infos info isInfo := by
    rcases second.infos info isInfo with ⟨old, isOld, sameId, sameName⟩ | isNew
    · rcases first.infos old isOld with
          ⟨oldest, isOldest, oldId, oldName⟩ | introduced
      · exact .inl
          ⟨oldest, isOldest, oldId.trans sameId, oldName.trans sameName⟩
      · have later := introduced.later second.collects
        have keeps : Keeps [old] info :=
          ⟨old, List.mem_singleton_self old, sameId, sameName⟩
        exact .inr (.of_keeps (List.forall_mem_singleton.mpr later) keeps)
    · exact .inr (isNew.earlier first.collects)

end Records

/-! ## Completing declarations -/

/-- A signature that joins a member is known with all its parameters. -/
theorem records_mergeOverload
    (node : Declaration)
    (overload : Facts)
    (assembly : Assembly) :
    Records node assembly (assembly.mergeOverload node overload).1
      (assembly.mergeOverload node overload).2 := by
  simp only [mergeOverload]
  split
  · exact .of_infos_eq (.of_symbols_eq (Nat.le_refl _) rfl)
      fun info isInfo => ⟨info, isInfo, rfl, rfl⟩
  · rename_i position callable found
    have isCallable := getElem?_of_callable found
    have leads : node.descendant? [position] = some callable :=
      Declaration.descendant?_cons_eq_some_iff.mpr ⟨callable, isCallable, rfl⟩
    have introduced (file : String) :=
      introduced_signature overload
        (assembly.overloadDocstring overload callable.id)
        overload.displayName file assembly
    refine ⟨(introduced _).1, ?_⟩
    obtain ⟨before, after, shape, replacedShape⟩ :=
      Declaration.exists_infos_around leads
    intro info isInfo
    rw [← Declaration.replaceAt_nil callable (callable.addSignature _),
      ← Declaration.replaceAt_cons isCallable, replacedShape] at isInfo
    have around (inNode : info ∈ before ++ (callable.infos ++ after)) :
        Keeps node.infos info :=
      ⟨info, shape ▸ inNode, rfl, rfl⟩
    rcases List.mem_append.mp isInfo with inBefore | inRest
    · exact .inl (around (List.mem_append_left _ inBefore))
    rcases List.mem_append.mp inRest with inCallable | inAfter
    · rcases mem_infos_addSignature_iff.mp inCallable with
          wasCallable | inSignature
      · exact .inl (around (List.mem_append_right _
          (List.mem_append_left _ wasCallable)))
      · exact .inr ((introduced _).2 info inSignature)
    · exact .inl (around (List.mem_append_right _
        (List.mem_append_right _ inAfter)))

theorem records_mergeOverloads
    (overloads : List Facts)
    (node : Declaration)
    (assembly : Assembly) :
    Records node assembly (assembly.mergeOverloads overloads node).1
      (assembly.mergeOverloads overloads node).2 := by
  induction overloads generalizing node assembly with
  | nil =>
      exact .refl node assembly
  | cons overload rest inductionHypothesis =>
      exact (records_mergeOverload node overload assembly).trans
        (inductionHypothesis (assembly.mergeOverload node overload).1
          (assembly.mergeOverload node overload).2)

theorem records_complete
    (facts : Facts)
    (docstring : Docstring)
    (owner : Owner)
    (assembly : Assembly) :
    Records owner.node assembly (assembly.complete facts docstring owner).1
      (assembly.complete facts docstring owner).2 := by
  have merged (based : Assembly)
      (supplyEq : based.supply = assembly.supply)
      (symbolsEq : based.symbols = assembly.symbols)
      (entered : Assembly)
      (enteredSupply : entered.supply =
        (based.mergeOverloads owner.overloads owner.node).2.supply)
      (enteredSymbols : entered.symbols =
        (based.mergeOverloads owner.overloads owner.node).2.symbols) :
      Records owner.node assembly
        (based.mergeOverloads owner.overloads owner.node).1 entered := by
    have records := records_mergeOverloads owner.overloads owner.node based
    have basing : Collects assembly based :=
      .of_symbols_eq (supplyEq ▸ Nat.le_refl _) symbolsEq
    have entering :
        Collects (based.mergeOverloads owner.overloads owner.node).2 entered :=
      .of_symbols_eq (enteredSupply ▸ Nat.le_refl _) enteredSymbols
    refine ⟨(basing.trans records.collects).trans entering, ?_⟩
    intro info isInfo
    exact (records.infos info isInfo).imp_right fun introduced =>
      (introduced.earlier basing).later entering
  simp only [complete]
  split <;> split <;> exact merged _ (by rfl) (by rfl) _ (by rfl) (by rfl)

end Assembly

/-! ## The walk -/

/-- A change at the top that keeps number and name keeps all nodes. -/
theorem keeps_of_updateInfo
    {change : Info → Info}
    {declaration : Declaration}
    (keepsId : (change declaration.info).id = declaration.info.id)
    (keepsName : (change declaration.info).name = declaration.info.name)
    {info : Info}
    (isInfo : info ∈ (declaration.updateInfo change).infos) :
    Keeps declaration.infos info := by
  cases declaration with
  | node top children signatures parameters =>
      rw [Declaration.updateInfo, Declaration.infos_node] at isInfo
      rw [Declaration.infos_node]
      rcases List.mem_cons.mp isInfo with rfl | below
      · exact ⟨top, List.mem_cons_self, keepsId.symm, keepsName.symm⟩
      · exact ⟨info, List.mem_cons_of_mem _ below, rfl, rfl⟩

theorem keeps_enterGroup
    {usesGroups : Bool}
    {member owner : Declaration}
    {info : Info}
    (isInfo : info ∈ (enterGroup usesGroups member owner).infos) :
    Keeps owner.infos info := by
  unfold enterGroup at isInfo
  split at isInfo
  · exact ⟨info, isInfo, rfl, rfl⟩
  · split at isInfo
    · exact keeps_of_updateInfo rfl rfl isInfo
    · exact ⟨info, isInfo, rfl, rfl⟩

theorem mem_infos_addChild_iff
    {declaration child : Declaration}
    {info : Info} :
    info ∈ (declaration.addChild child).infos ↔
      info ∈ declaration.infos ∨ info ∈ child.infos := by
  cases declaration
  simp only [Declaration.addChild, Declaration.infos_node, List.mem_cons,
    List.mem_append, List.flatMap_append, List.flatMap_singleton]
  tauto

/-- Every walk records what it makes. -/
theorem walkLaw_records
    (options : Options)
    (usesGroups : Bool) :
    WalkLaw options usesGroups fun before after =>
      Assembly.Records before.1.node before.2 after.1.node after.2 where
  refl state := .refl state.1.node state.2
  trans _ _ _ := .trans
  addsAlias _ _ _ :=
    .of_infos_eq (.of_symbols_eq (Nat.le_refl _) rfl)
      fun info isInfo => ⟨info, isInfo, rfl, rfl⟩
  waits owner assembly _ := .refl owner.node assembly
  declares here facts owner assembly inside records := by
    obtain ⟨opening, opened⟩ :=
      Assembly.introduced_declaration options here owner.node.kind facts
        (docstringAt here facts) assembly
    have walked := records.trans
      (Assembly.records_complete facts (docstringAt here facts) inside.1 inside.2)
    refine ⟨opening.trans walked.collects, ?_⟩
    intro info isInfo
    rcases mem_infos_addChild_iff.mp isInfo with wasThere | inMember
    · exact .inl (keeps_enterGroup wasThere)
    · refine .inr (Assembly.Introduced.of_keeps ?_
        (keeps_of_updateInfo rfl rfl inMember))
      intro one isOne
      rcases walked.infos one isOne with keeps | introduced
      · exact (Assembly.Introduced.of_keeps opened keeps).later walked.collects
      · exact introduced.earlier opening

/-- That a table knows a node, unless it is the project. -/
def Tracked
    (table : SymbolTable)
    (info : Info) :
    Prop :=
  info.id ≠ rootId → table.Knows info

/-- That a table knows every node but the project, which has no symbol. -/
structure Indexes
    (table : SymbolTable)
    (root : Declaration) :
    Prop where
  ordered : table.Ordered
  apart : rootId ∉ table.numbers
  tracked : root.Everywhere (Tracked table)

/-- Every node of the assembled tree but the project is known by its name. -/
theorem indexes_assemble
    (options : Options)
    (modules : List ApiObject) :
    Indexes (assemble options modules).2.symbols (assemble options modules).1 := by
  have walked :=
    (walkLaw_records options
      (ApiObject.anyMentions groupDecorator modules)).walkAll modules {}
        ({ node := emptyRoot options }, {})
  have indexes {node : Declaration} {assembly : Assembly}
      (records : Assembly.Records (emptyRoot options) {} node assembly) :
      Indexes assembly.symbols node := by
    refine
      { ordered := records.collects.ordered .nil
        apart := ?_
        tracked := ?_ }
    · intro isNumber
      rcases records.collects.numbers rootId isNumber with wasNumber | isNew
      · cases wasNumber
      · exact Nat.not_succ_le_zero _ isNew
    · intro info isInfo notRoot
      rcases records.infos info isInfo with ⟨old, isOld, sameId, -⟩ | introduced
      · obtain rfl := List.mem_singleton.mp isOld
        exact (notRoot sameId.symm).elim
      · exact introduced.knows
  exact indexes (walked.trans (Assembly.records_mergeOverloads _ _ _))

end ApiTree.Convert
