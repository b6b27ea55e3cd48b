import ApiTree.Proofs.Convert.Coverage
import ApiTree.Proofs.Convert.Symbols
import ApiTree.Proofs.Hierarchy.Provenance

namespace ApiTree.Convert

open ApiTree.Decl
open ApiTree.Dump (ApiObject Docstring Facts)
open ApiTree.Interp (TypeParser)

/-!
# Where declarations were found

A declaration says in which file it was found, and its symbol says so too.  A copy takes
both from what it is a copy of.  A member that is filled in takes the place that it
names from the member that fills it in, but keeps its symbol.  So the two agree in a
converted project except for members that were filled in from another file.
-/

/-! ## Recorded files -/

/-- That the symbol of a node has the file that the node was found in, if it says so. -/
def Filed
    (assembly : Assembly)
    (info : Info) :
    Prop :=
  ∀ spot ∈ info.sources.head?, info.id < assembly.supply.next ∧
    ∃ symbol, assembly.symbols.lookup info.id = some symbol ∧ symbol.file = spot.file

namespace Filed

variable
    {before after : Assembly}
    {info : Info}

theorem of_unspotted
    (unspotted : info.sources = [])
    (assembly : Assembly) :
    Filed assembly info := by
  intro spot isSpot
  rw [unspotted] at isSpot
  cases isSpot

/-- What is recorded later has other numbers. -/
theorem later
    (filed : Filed before info)
    (collects : Assembly.Collects before after) :
    Filed after info := by
  intro spot isSpot
  obtain ⟨isTaken, symbol, looked, sameFile⟩ := filed spot isSpot
  exact ⟨Nat.lt_of_lt_of_le isTaken collects.next_le, symbol,
    (collects.lookup_eq info.id isTaken).trans looked, sameFile⟩

end Filed

namespace Assembly

/-- Parameters do not say where they were found. -/
theorem unspotted_parameters
    (docstring : Docstring)
    (arguments : List Dump.Argument)
    (assembly : Assembly) :
    ∀ parameter ∈ (assembly.parameters docstring arguments).1,
      parameter.Everywhere fun info => info.sources = [] := by
  induction arguments generalizing assembly with
  | nil =>
      intro parameter isParameter
      cases isParameter
  | cons argument rest inductionHypothesis =>
      exact List.forall_mem_cons.mpr
        ⟨everywhere_ofInfo rfl,
          inductionHypothesis (assembly.parameter docstring argument).2⟩

theorem unspotted_signature
    (facts : Facts)
    (docstring : Docstring)
    (name : String)
    (assembly : Assembly) :
    (assembly.signature facts docstring name).1.Everywhere
      fun info => info.sources = [] :=
  Declaration.everywhere_iff.mpr
    ⟨rfl, List.forall_mem_nil _, List.forall_mem_nil _,
      unspotted_parameters docstring (facts.arguments.filter (!·.isReceiver)) _⟩

/-- A declaration is recorded with the file that it was found in. -/
theorem filed_declaration
    (options : Options)
    (site : Site)
    (ownerKind : Kind)
    (facts : Facts)
    (docstring : Docstring)
    (assembly : Assembly) :
    let made := assembly.declaration options site ownerKind facts docstring
    made.1.Everywhere (Filed made.2) := by
  simp only [declaration]
  generalize assembly.shapeType (Shape.of ownerKind facts) = typed
  have named (info : Info) (isId : info.id = typed.2.takeId.1)
      (isSpot : info.sources = [⟨ApiTree.Text.erase options.repositoryRoot site.file,
        facts.location.line, 1⟩]) :
      Filed (typed.2.takeId.2.declareName typed.2.takeId.1 facts.displayName
        (ApiTree.Text.erase options.repositoryRoot site.file)) info := by
    rw [Filed, isSpot, isId]
    rintro spot ⟨⟩
    refine ⟨?_, _, SymbolTable.lookup_record_self, rfl⟩
    rw [fst_takeId, supply_declareName, next_takeId]
    exact Nat.lt_succ_self _
  split
  · have signed := (introduced_signature facts docstring facts.displayName
      (ApiTree.Text.erase options.repositoryRoot site.file)
      (typed.2.takeId.2.declareName typed.2.takeId.1 facts.displayName
        (ApiTree.Text.erase options.repositoryRoot site.file))).1
    refine everywhere_addSignature (everywhere_ofInfo ((named _ ?_ ?_).later signed)) ?_
    · rfl
    · rfl
    · exact fun info isInfo =>
        .of_unspotted (unspotted_signature facts docstring _ _ info isInfo) _
  · exact everywhere_ofInfo (named _ rfl rfl)

/-- A signature that joins a member keeps what holds of it and of unspotted nodes. -/
theorem everywhere_mergeOverloads
    {holds : Info → Prop}
    (unspotted : ∀ info, info.sources = [] → holds info)
    (overloads : List Facts)
    {node : Declaration}
    (everywhere : node.Everywhere holds)
    (assembly : Assembly) :
    (assembly.mergeOverloads overloads node).1.Everywhere holds := by
  induction overloads generalizing node assembly with
  | nil =>
      exact everywhere
  | cons overload rest inductionHypothesis =>
      have first : (assembly.mergeOverload node overload).1.Everywhere holds := by
        simp only [mergeOverload]
        split
        · exact everywhere
        · rename_i position callable found
          have isCallable := getElem?_of_callable found
          have leads : node.descendant? [position] = some callable :=
            Declaration.descendant?_cons_eq_some_iff.mpr ⟨callable, isCallable, rfl⟩
          have joined := everywhere_addSignature (everywhere.descendant? leads)
            fun info isInfo => unspotted info
              (unspotted_signature overload
                (assembly.overloadDocstring overload callable.id) overload.displayName
                assembly info isInfo)
          have replaced := everywhere.replaceAt leads joined
          rw [Declaration.replaceAt_cons isCallable, Declaration.replaceAt_nil] at replaced
          exact replaced
      exact inductionHypothesis first (assembly.mergeOverload node overload).2

end Assembly

/-- What a walk does to files: all nodes are recorded with theirs. -/
structure Files (before after : Owner × Assembly) : Prop where
  collects : Assembly.Collects before.2 after.2
  filed : before.1.node.Everywhere (Filed before.2) →
    after.1.node.Everywhere (Filed after.2)

theorem walkLaw_files
    (options : Options)
    (usesGroups : Bool) :
    WalkLaw options usesGroups Files where
  refl state := ⟨.refl state.2, id⟩
  trans _ _ _ first second :=
    ⟨first.collects.trans second.collects, fun filed => second.filed (first.filed filed)⟩
  addsAlias _ assembly facts :=
    ⟨.of_symbols_eq (Nat.le_refl _) rfl, id⟩
  waits _ assembly _ := ⟨.refl assembly, id⟩
  declares here facts owner assembly inside steps := by
    have opening := (Assembly.introduced_declaration options here owner.node.kind facts
      (docstringAt here facts) assembly).1
    have completing := (Assembly.records_complete facts (docstringAt here facts) inside.1
      inside.2).collects
    obtain ⟨based, memberEq⟩ := Assembly.exists_complete_eq facts
      (docstringAt here facts) inside.1 inside.2
    simp only [Assembly.closed]
    generalize inside.2.complete facts (docstringAt here facts) inside.1 = completed
      at completing memberEq ⊢
    obtain ⟨member, last⟩ := completed
    dsimp only at completing memberEq ⊢
    have filedMember : member.Everywhere (Filed last) := by
      rw [memberEq]
      refine Assembly.everywhere_mergeOverloads
        (fun info unspotted => .of_unspotted unspotted _) _ ?_ based
      have filed := steps.filed (Assembly.filed_declaration options here
        owner.node.kind facts (docstringAt here facts) assembly)
      exact fun info isInfo => (filed info isInfo).later completing
    have collects := (opening.trans steps.collects).trans completing
    refine ⟨collects, fun filed => ?_⟩
    have filedOwner : owner.node.Everywhere (Filed last) :=
      fun info isInfo => (filed info isInfo).later collects
    have atOwner := filedOwner owner.node.info owner.node.info_mem_infos
    have atMember := filedMember member.info member.info_mem_infos
    obtain ⟨groups, enteredEq⟩ := exists_enterGroup_eq usesGroups member owner.node
    rw [enteredEq]
    -- What groups a node has does not matter.
    exact everywhere_addChild (filedOwner.updateInfo atOwner)
      (filedMember.updateInfo atMember)

/-- Every node of the assembled tree is recorded with the file that it was found in. -/
theorem filed_assemble
    (options : Options)
    (modules : List ApiObject) :
    (assemble options modules).1.Everywhere (Filed (assemble options modules).2) := by
  have walked :=
    (walkLaw_files options
      (ApiObject.anyMentions groupDecorator modules)).walkAll modules {}
        ({ node := emptyRoot options }, {})
  have filed := walked.filed (everywhere_ofInfo (.of_unspotted rfl _))
  simp only [assemble]
  generalize walkAll options (ApiObject.anyMentions groupDecorator modules) {} modules
    ({ node := emptyRoot options }, {}) = state at filed
  have merging := (Assembly.records_mergeOverloads state.1.overloads state.1.node
    state.2).collects
  exact Assembly.everywhere_mergeOverloads
    (fun info unspotted => .of_unspotted unspotted _) _
    (fun info isInfo => (filed info isInfo).later merging) _

/-! ## Inherited files -/

theorem enterable_spotted : Enterable (OfMembers Spotted) where
  steady := heritable_spotted.steady
  sortable := sortable_ofMembers _
  empty := List.forall_mem_nil _
  entered _ _ _ _ _ isSpotted spotted :=
    List.forall_mem_append.mpr ⟨spotted, List.forall_mem_singleton.mpr isSpotted⟩

/-- Every node of the inherited tree goes back to nodes of the assembled one. -/
theorem derived_inherited
    (options : Options)
    (modules : List ApiObject) :
    (inherited options modules).root.Everywhere
      (Derived ⟨(assemble options modules).1.infos, (assemble options modules).1.topIds⟩
        (inherited options modules).copies) := by
  rw [inherited, Hierarchy.resolve_eq_flowAlong]
  exact (Hierarchy.derived_flowAlong (numberedFrom_assemble options modules)
    (own_assemble options modules)
    (presentsBelow_assemble enterable_spotted options modules)
    (innerEnds_schedule options modules)).2

/-! ## The converted project -/

/--
That the symbol of a node has the file of one declaration, which the node stands for,
and the node the place of another one, whose contents it has.
-/
structure LocatedBy
    (options : Options)
    (modules : List ApiObject)
    (symbols : SymbolTable)
    (info own origin : Info) :
    Prop where
  own_mem : own ∈ (assemble options modules).1.infos
  own_id : own.id = (inherited options modules).copies.home info.id
  symbol_file : ∃ symbol ownSpot, symbols.lookup info.id = some symbol ∧
    own.sources.head? = some ownSpot ∧ symbol.file = ownSpot.file
  origin_mem : origin ∈ (assemble options modules).1.infos
  sources_eq : info.sources = origin.sources
  own_name : own.name = info.name
  origin_name : origin.name = info.name
  filled : own = origin ∨ own.hasSummary = false

/-- That the symbol of a node has the file that the node says it was found in. -/
def SourceAgrees
    (symbols : SymbolTable)
    (info : Info) :
    Prop :=
  ∀ spot ∈ info.sources.head?, ∃ symbol,
    symbols.lookup info.id = some symbol ∧ symbol.file = spot.file

/-- That declarations of one name were found in one file if one is undocumented. -/
def FilledInPlace
    (options : Options)
    (modules : List ApiObject) :
    Prop :=
  ∀ own ∈ (assemble options modules).1.infos, own.hasSummary = false →
    ∀ origin ∈ (assemble options modules).1.infos, own.name = origin.name →
      ∀ ownSpot ∈ own.sources.head?, ∀ spot ∈ origin.sources.head?,
        ownSpot.file = spot.file

/-- The declaration that a located node stands for decides whether its files agree. -/
theorem LocatedBy.sourceAgrees_iff
    {options : Options}
    {modules : List ApiObject}
    {symbols : SymbolTable}
    {info own origin : Info}
    (located : LocatedBy options modules symbols info own origin) :
    SourceAgrees symbols info ↔
      ∀ ownSpot ∈ own.sources.head?, ∀ spot ∈ origin.sources.head?,
        ownSpot.file = spot.file := by
  obtain ⟨symbol, ownSpot, looked, isOwn, sameFile⟩ := located.symbol_file
  rw [SourceAgrees, located.sources_eq]
  constructor
  · rintro agrees other isOther spot isSpot
    obtain rfl := Option.some.inj (isOwn.symm.trans isOther)
    obtain ⟨found, isFound, foundFile⟩ := agrees spot isSpot
    obtain rfl := Option.some.inj (looked.symm.trans isFound)
    exact sameFile.symm.trans foundFile
  · intro agree spot isSpot
    exact ⟨symbol, looked, sameFile.trans (agree ownSpot isOwn spot isSpot)⟩

variable
    {options : Options}
    {parser : TypeParser}
    {modules : List ApiObject}
    {conversion : Conversion}
    {answers : Resolve.Answers}

/-- Finishing leaves the number, the name and the place of a node. -/
theorem Finished.forall₂_sources
    (finished : Finished options parser modules conversion answers) :
    List.Forall₂
      (fun before after => after.id = before.id ∧ after.name = before.name ∧
        after.sources = before.sources)
      (inherited options modules).root.infos conversion.project.root.infos := by
  refine finished.forall₂_regrouped.imp ?_
  rintro before after ⟨groups, rfl⟩
  obtain ⟨_, _, _, finishEq⟩ := exists_finishInfo_eq
    (resolvedTypes options modules answers) (declaredAs options modules) before
  rw [finishEq]
  exact ⟨rfl, rfl, rfl⟩

/-- Every node of a converted project that was found somewhere is located. -/
theorem exists_locatedBy
    (converted : convertModules options parser modules = .ok conversion)
    {info : Info}
    (isInfo : info ∈ conversion.project.root.infos)
    (isSpotted : info.sources ≠ []) :
    ∃ own origin,
      LocatedBy options modules conversion.project.symbols info own origin := by
  obtain ⟨answers, finished⟩ := exists_finished converted
  obtain ⟨before, wasInfo, sameId, sameName, sameSources⟩ :=
    exists_of_mem_right finished.forall₂_sources isInfo
  obtain ⟨own, origin, descends⟩ := derived_inherited options modules before wasInfo
  have sources_eq : info.sources = origin.sources :=
    sameSources.trans descends.echoes.sources_eq
  have ownSpotted : own.sources ≠ [] := by
    rcases descends.filled with rfl | isFilled
    · exact sources_eq ▸ isSpotted
    · exact isFilled.2
  obtain ⟨ownSpot, rest, isOwn⟩ := List.exists_cons_of_ne_nil ownSpotted
  have isHead : own.sources.head? = some ownSpot := by
    rw [isOwn, List.head?_cons]
  obtain ⟨-, symbol, looked, sameFile⟩ :=
    filed_assemble options modules own descends.own_mem ownSpot isHead
  have isPresent : conversion.project.root.ids.contains info.id = true := by
    rw [List.contains_iff_mem]
    exact Declaration.id_mem_ids_of_info isInfo
  refine ⟨own, origin,
    { own_mem := descends.own_mem
      own_id := sameId ▸ descends.own_id
      symbol_file := ⟨symbol, ownSpot, ?_, isHead, sameFile⟩
      origin_mem := descends.origin_mem
      sources_eq := sources_eq
      own_name := descends.name_own.trans sameName.symm
      origin_name := descends.echoes.name_eq.symm.trans sameName.symm
      filled := descends.filled.imp id And.left }⟩
  rw [symbols_eq_filter converted, SymbolTable.lookup_filter isPresent]
  refine lookup_recordCopies_of_home ?_
  rw [sameId, ← descends.own_id]
  exact looked

/--
In a converted project the symbol of a node has the file of the declaration that the
node stands for, and the node the place of the declaration whose contents it has.  The
two are the same unless the first is an undocumented member that was filled in.  So the
files agree unless one was filled in from another file.
-/
theorem sources_agree_unless_filled_in
    (converted : convertModules options parser modules = .ok conversion) :
    (∀ info ∈ conversion.project.root.infos, info.sources ≠ [] →
      ∃ own origin,
        LocatedBy options modules conversion.project.symbols info own origin ∧
          (SourceAgrees conversion.project.symbols info ↔
            ∀ ownSpot ∈ own.sources.head?, ∀ spot ∈ origin.sources.head?,
              ownSpot.file = spot.file)) ∧
      (FilledInPlace options modules →
        ∀ info ∈ conversion.project.root.infos,
          SourceAgrees conversion.project.symbols info) := by
  constructor
  · intro info isInfo isSpotted
    obtain ⟨own, origin, located⟩ := exists_locatedBy converted isInfo isSpotted
    exact ⟨own, origin, located, located.sourceAgrees_iff⟩
  · intro inPlace info isInfo spot isSpot
    have isSpotted : info.sources ≠ [] := by
      intro unspotted
      rw [unspotted] at isSpot
      cases isSpot
    obtain ⟨own, origin, located⟩ := exists_locatedBy converted isInfo isSpotted
    refine located.sourceAgrees_iff.mpr ?_ spot isSpot
    intro ownSpot isOwn other isOther
    rcases located.filled with rfl | undocumented
    · exact congrArg SourceSpot.file (Option.some.inj (isOwn.symm.trans isOther))
    · exact inPlace own located.own_mem undocumented origin located.origin_mem
        (located.own_name.trans located.origin_name.symm) ownSpot isOwn other isOther

/-- A class in one file, and two that extend it: one there, and one in another file. -/
def filedModules : List ApiObject :=
  [ .mk { name := "pkg", tag := "module", location := ⟨"a.py", 1⟩ }
      [ .mk { name := "Base", tag := "class", location := ⟨"a.py", 1⟩ }
          [ .mk { name := "run", tag := "function", location := ⟨"a.py", 2⟩,
                  docstring := some "Runs" } [] ],
        .mk { name := "Near", tag := "class", location := ⟨"a.py", 4⟩, bases := ["Base"] }
          [.mk { name := "run", tag := "function", location := ⟨"a.py", 5⟩ } []],
        .mk { name := "Far", tag := "class", location := ⟨"b.py", 1⟩, bases := ["Base"] }
          [] ] ]

/-- Here a member is filled in from its own file, and one is copied from another. -/
theorem sources_agree_unless_filled_in_of_near :
    ∃ conversion,
      convertModules {} TypeParser.silent filedModules = .ok conversion ∧
        FilledInPlace {} filedModules ∧
        ∀ info ∈ conversion.project.root.infos,
          SourceAgrees conversion.project.symbols info := by
  obtain ⟨conversion, converted⟩ :=
    exists_silent_conversion (failure_inherited {} filedModules)
  have inPlace : FilledInPlace {} filedModules := by
    unfold FilledInPlace
    decide +kernel
  exact ⟨conversion, converted, inPlace,
    (sources_agree_unless_filled_in converted).2 inPlace⟩

/-- A class in one file, and one in another file with an undocumented override. -/
def farModules : List ApiObject :=
  [ .mk { name := "pkg", tag := "module", location := ⟨"a.py", 1⟩ }
      [ .mk { name := "Base", tag := "class", location := ⟨"a.py", 1⟩ }
          [ .mk { name := "run", tag := "function", location := ⟨"a.py", 2⟩,
                  docstring := some "Runs" } [] ],
        .mk { name := "Derived", tag := "class", location := ⟨"b.py", 1⟩,
              bases := ["Base"] }
          [.mk { name := "run", tag := "function", location := ⟨"b.py", 2⟩ } []] ] ]

/-- The override takes the place of what fills it in, but its symbol keeps its file. -/
theorem filled_in_source_disagrees :
    ∃ conversion,
      convertModules {} TypeParser.silent farModules = .ok conversion ∧
        ∃ info ∈ conversion.project.root.infos,
          ¬ SourceAgrees conversion.project.symbols info := by
  obtain ⟨conversion, converted⟩ :=
    exists_silent_conversion (failure_inherited {} farModules)
  obtain ⟨answers, finished⟩ := exists_finished converted
  cases finished.answered
  refine ⟨conversion, converted, ?_⟩
  have disagrees :
      (conversion.project.root.infos.any fun info =>
        info.sources.head?.any fun spot =>
          (conversion.project.symbols.lookup info.id).map (·.file) != some spot.file) =
        true := by
    rw [symbols_eq_filter converted, finished.root_eq]
    decide +kernel
  obtain ⟨info, isInfo, differs⟩ := List.any_eq_true.mp disagrees
  obtain ⟨spot, isSpot, differs⟩ := (Option.any_eq_true _ _).mp differs
  refine ⟨info, isInfo, fun agrees => ?_⟩
  obtain ⟨symbol, looked, sameFile⟩ := agrees spot isSpot
  simp [looked, sameFile] at differs

end ApiTree.Convert
