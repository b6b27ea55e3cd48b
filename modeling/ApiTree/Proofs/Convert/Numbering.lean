import ApiTree.Proofs.Convert.Finishing
import ApiTree.Proofs.Convert.Walk
import ApiTree.Proofs.Hierarchy.Propagation

namespace ApiTree.Convert

open ApiTree.Decl
open ApiTree.Dump (ApiObject Argument Docstring Facts)
open ApiTree.Interp (TypeParser)

/-!
# Numbers in a converted project

Declarations, signatures and parameters take the next number when they are made,
copies and filled-in members when members are inherited, and nothing else gets a
number.  So no number occurs twice in a converted project, and zero is that of
the project alone.
-/

namespace Assembly

/-! ## Making declarations -/

@[simp] theorem fst_takeId (assembly : Assembly) :
    assembly.takeId.1 = assembly.supply.next :=
  rfl

@[simp] theorem next_takeId (assembly : Assembly) :
    assembly.takeId.2.supply.next = assembly.supply.next + 1 :=
  rfl

@[simp] theorem supply_declareName
    (id : DeclId)
    (name file : String)
    (assembly : Assembly) :
    (assembly.declareName id name file).supply = assembly.supply :=
  rfl

@[simp] theorem supply_recordSignature
    (file : String)
    (signature : Declaration)
    (assembly : Assembly) :
    (assembly.recordSignature file signature).supply = assembly.supply := by
  have each (nodes : List Declaration) (recorded : Assembly) :
      (nodes.foldl
        (fun assembly node => assembly.recordSymbol node.id node.name file)
        recorded).supply = recorded.supply := by
    induction nodes generalizing recorded with
    | nil =>
        rfl
    | cons first rest inductionHypothesis =>
        exact inductionHypothesis _
  exact each _ assembly

@[simp] theorem supply_shapeType
    (shape : Shape)
    (assembly : Assembly) :
    (assembly.shapeType shape).2.supply = assembly.supply := by
  cases shape <;> rfl

/-- A parameter takes one number. -/
theorem covers_parameter
    (docstring : Docstring)
    (argument : Argument)
    (assembly : Assembly) :
    Covers assembly.supply.next
      (assembly.parameter docstring argument).2.supply.next []
      (assembly.parameter docstring argument).1.ids :=
  Covers.single assembly.supply.next

theorem covers_parameters
    (docstring : Docstring)
    (arguments : List Argument)
    (assembly : Assembly) :
    Covers assembly.supply.next
      (assembly.parameters docstring arguments).2.supply.next []
      ((assembly.parameters docstring arguments).1.flatMap Declaration.ids) := by
  induction arguments generalizing assembly with
  | nil =>
      exact .refl _ _
  | cons argument rest inductionHypothesis =>
      exact (covers_parameter docstring argument assembly).append
        (inductionHypothesis (assembly.parameter docstring argument).2)

/-- A signature takes a number for itself and then those of its parameters. -/
theorem covers_signature
    (facts : Facts)
    (docstring : Docstring)
    (name : String)
    (assembly : Assembly) :
    Covers assembly.supply.next
      (assembly.signature facts docstring name).2.supply.next []
      (assembly.signature facts docstring name).1.ids := by
  have own := Covers.single assembly.supply.next
  have below :=
    covers_parameters docstring (facts.arguments.filter (!·.isReceiver))
      (assembly.takeId.2.addType facts.returnType).2
  simpa [signature, Declaration.ids_node] using own.append below

/-- A declaration takes a number for itself and then those of its signature. -/
theorem covers_declaration
    (options : Options)
    (site : Site)
    (ownerKind : Kind)
    (facts : Facts)
    (docstring : Docstring)
    (assembly : Assembly) :
    Covers assembly.supply.next
      (assembly.declaration options site ownerKind facts docstring).2.supply.next
      []
      (assembly.declaration options site ownerKind facts docstring).1.ids := by
  have own := Covers.single assembly.supply.next
  simp only [declaration]
  split
  · have signed (named : Assembly)
        (next : named.supply.next = assembly.supply.next + 1) :
        Covers assembly.supply.next
          (named.signature facts docstring facts.displayName).2.supply.next []
          (assembly.supply.next ::
            (named.signature facts docstring facts.displayName).1.ids) := by
      have below := covers_signature facts docstring facts.displayName named
      rw [next] at below
      exact own.append below
    simpa [Declaration.ids_node, Declaration.ofInfo,
      Declaration.addSignature] using signed _ (by simp)
  · simpa [Declaration.ids_node, Declaration.ofInfo] using own

/-- The number of a declaration is one that was taken. -/
theorem id_declaration_lt
    (options : Options)
    (site : Site)
    (ownerKind : Kind)
    (facts : Facts)
    (docstring : Docstring)
    (assembly : Assembly) :
    let made := assembly.declaration options site ownerKind facts docstring
    made.1.id < made.2.supply.next := by
  have covers :=
    covers_declaration options site ownerKind facts docstring assembly
  rcases covers.mem_or_taken (Declaration.id_mem_ids _) with wasThere | isTaken
  · cases wasThere
  · exact isTaken.2

/-! ## Completing declarations -/

/-- What joins a declaration as a member brings the numbers it took. -/
theorem covers_addChild
    {first last : Nat}
    (owner : Declaration)
    {child : Declaration}
    (covers : Covers first last [] child.ids) :
    Covers first last owner.ids (owner.addChild child).ids :=
  (covers.join owner.ids).of_count_after fun number =>
    Nat.le_of_eq <| by
      rw [Declaration.count_ids_addChild, List.count_append]

theorem covers_addSignature
    {first last : Nat}
    (callable : Declaration)
    {signature : Declaration}
    (covers : Covers first last [] signature.ids) :
    Covers first last callable.ids (callable.addSignature signature).ids :=
  (covers.join callable.ids).of_count_after fun number =>
    Nat.le_of_eq <| by
      rw [Declaration.count_ids_addSignature, List.count_append]

/-- The callable that an alternative signature joins is a member. -/
theorem getElem?_of_callable
    {name : String}
    {members : List Declaration}
    {position : Nat}
    {callable : Declaration}
    (found :
      ((callablePosition? name members).bind fun index =>
        (members[index]?).map fun member => (index, member)) =
          some (position, callable)) :
    members[position]? = some callable := by
  obtain ⟨index, -, inMembers⟩ := Option.bind_eq_some_iff.mp found
  obtain ⟨member, isMember, same⟩ := Option.map_eq_some_iff.mp inMembers
  cases same
  exact isMember

/-- A signature that joins a declaration takes its own numbers. -/
theorem covers_mergeOverload
    (node : Declaration)
    (overload : Facts)
    (assembly : Assembly) :
    Covers assembly.supply.next
      (assembly.mergeOverload node overload).2.supply.next node.ids
      (assembly.mergeOverload node overload).1.ids := by
  simp only [mergeOverload]
  split
  · exact .refl _ _
  · rename_i position callable found
    have isCallable := getElem?_of_callable found
    have below :=
      covers_signature overload
        (assembly.overloadDocstring overload callable.id)
        overload.displayName assembly
    simp only [supply_recordSignature]
    rw [← Declaration.replaceAt_nil callable (callable.addSignature _),
      ← Declaration.replaceAt_cons isCallable]
    exact Inheriting.covers_replaceAt
      (Declaration.descendant?_cons_eq_some_iff.mpr ⟨callable, isCallable, rfl⟩)
      (covers_addSignature callable below)

theorem covers_mergeOverloads
    (overloads : List Facts)
    (node : Declaration)
    (assembly : Assembly) :
    Covers assembly.supply.next
      (assembly.mergeOverloads overloads node).2.supply.next node.ids
      (assembly.mergeOverloads overloads node).1.ids := by
  induction overloads generalizing node assembly with
  | nil =>
      exact .refl _ _
  | cons overload rest inductionHypothesis =>
      exact (covers_mergeOverload node overload assembly).trans
        (inductionHypothesis (assembly.mergeOverload node overload).1
          (assembly.mergeOverload node overload).2)

/-- Completing a declaration takes the numbers of what joins it. -/
theorem covers_complete
    (facts : Facts)
    (docstring : Docstring)
    (owner : Owner)
    (assembly : Assembly) :
    Covers assembly.supply.next
      (assembly.complete facts docstring owner).2.supply.next owner.node.ids
      (assembly.complete facts docstring owner).1.ids := by
  have merged (based : Assembly)
      (supply_eq : based.supply = assembly.supply) :
      Covers assembly.supply.next
        (based.mergeOverloads owner.overloads owner.node).2.supply.next
        owner.node.ids
        (based.mergeOverloads owner.overloads owner.node).1.ids := by
    rw [← supply_eq]
    exact covers_mergeOverloads owner.overloads owner.node based
  simp only [complete]
  split <;> split <;> exact merged _ rfl

end Assembly

@[simp] theorem ids_enterGroup
    (usesGroups : Bool)
    (member owner : Declaration) :
    (enterGroup usesGroups member owner).ids = owner.ids := by
  unfold enterGroup
  split
  · rfl
  · split
    · exact Declaration.ids_updateInfo owner rfl
    · rfl

/-- A walk takes its numbers from the supply. -/
theorem walkLaw_covers
    (options : Options)
    (usesGroups : Bool) :
    WalkLaw options usesGroups fun before after =>
      Covers before.2.supply.next after.2.supply.next
        before.1.node.ids after.1.node.ids where
  refl _ := .refl _ _
  trans _ _ _ := .trans
  addsAlias _ _ _ := .refl _ _
  waits _ _ _ := .refl _ _
  declares here facts owner assembly inside covers := by
    have made :=
      Assembly.covers_declaration options here owner.node.kind facts
        (docstringAt here facts) assembly
    have completed :=
      Assembly.covers_complete facts (docstringAt here facts) inside.1 inside.2
    have child := (made.trans covers).trans completed
    rw [← Declaration.ids_sortMembers] at child
    rw [← ids_enterGroup usesGroups _ owner.node]
    exact Assembly.covers_addChild _ child

/-- The declarations of a project take their numbers from a new supply. -/
theorem numberedFrom_assemble
    (options : Options)
    (modules : List ApiObject) :
    NumberedFrom (assemble options modules).2.supply
      (assemble options modules).1 := by
  have root :
      NumberedFrom IdSupply.fresh (emptyRoot options) := by
    constructor <;>
      simp [emptyRoot, Declaration.ofInfo, Declaration.ids_node, rootId,
        IdSupply.fresh]
  have walked :=
    (walkLaw_covers options
      (ApiObject.anyMentions groupDecorator modules)).walkAll modules {}
        ({ node := emptyRoot options }, {})
  exact root.of_covers
    (walked.trans (Assembly.covers_mergeOverloads _ _ _))

/-- The number of an owner stays while its signatures are merged. -/
theorem id_mergeOverloads
    (overloads : List Facts)
    (node : Declaration)
    (assembly : Assembly) :
    (assembly.mergeOverloads overloads node).1.id = node.id := by
  induction overloads generalizing node assembly with
  | nil =>
      rfl
  | cons overload rest inductionHypothesis =>
      rw [Assembly.mergeOverloads, inductionHypothesis]
      simp only [Assembly.mergeOverload]
      split
      · rfl
      · rw [Declaration.id, Declaration.info_setChildren]
        rfl

/-- The number of an owner stays while objects are walked. -/
theorem walkLaw_id
    (options : Options)
    (usesGroups : Bool) :
    WalkLaw options usesGroups fun before after =>
      after.1.node.id = before.1.node.id where
  refl _ := rfl
  trans _ _ _ first second := second.trans first
  addsAlias _ _ _ := rfl
  waits _ _ _ := rfl
  declares here facts owner assembly inside _ := by
    simp only [Assembly.closed, Declaration.id, Declaration.info_addChild]
    unfold enterGroup
    split
    · rfl
    · split
      · rw [Declaration.info_updateInfo, Info.id_addToGroup]
      · rfl

/-- The assembled root has the number of the project. -/
theorem id_assemble
    (options : Options)
    (modules : List ApiObject) :
    (assemble options modules).1.id = rootId := by
  have walked :=
    (walkLaw_id options
      (ApiObject.anyMentions groupDecorator modules)).walkAll modules {}
        ({ node := emptyRoot options }, {})
  simp only [assemble]
  rw [id_mergeOverloads, walked]
  rfl

/-- No number occurs twice after inheriting, and the next one is still unused. -/
theorem numberedFrom_inherited
    (options : Options)
    (modules : List ApiObject) :
    NumberedFrom (inherited options modules).supply (inherited options modules).root :=
  Hierarchy.numberedFrom_flowAlong (numberedFrom_assemble options modules) _

/-- Inheriting keeps the number of the project itself. -/
theorem id_inherited
    (options : Options)
    (modules : List ApiObject) :
    (inherited options modules).root.id = rootId :=
  (Hierarchy.id_flowAlong _ _ _).trans (id_assemble options modules)

/-- How many numbers a conversion takes. -/
def numbersTaken
    (options : Options)
    (modules : List ApiObject) :
    Nat :=
  (inherited options modules).supply.issued

/--
In a converted project no number occurs twice, the root alone has number zero,
and all other numbers are those that were taken, from one upwards.
-/
theorem converted_ids_distinct
    {options : Options}
    {parser : TypeParser}
    {modules : List ApiObject}
    {conversion : Conversion}
    (converted : convertModules options parser modules = .ok conversion) :
    conversion.project.root.ids.Nodup ∧
      conversion.project.root.id = rootId ∧
      ∀ number ∈ conversion.project.root.ownedIds,
        number ≠ rootId ∧ number ≤ numbersTaken options modules := by
  obtain ⟨answers, finished⟩ := exists_finished converted
  have numbered := numberedFrom_inherited options modules
  have distinct := numbered.distinct
  have below := numbered.below
  have sameIds := finished.ids_eq
  rw [← sameIds] at distinct below
  rw [Declaration.ids_eq_cons_ownedIds,
    Declaration.ids_eq_cons_ownedIds (inherited options modules).root,
    id_inherited] at sameIds
  obtain ⟨sameRoot, -⟩ := List.cons.inj sameIds
  refine ⟨distinct, sameRoot, ?_⟩
  intro number isOwned
  rw [Declaration.ids_eq_cons_ownedIds, sameRoot] at distinct below
  constructor
  · intro isRoot
    exact (List.nodup_cons.mp distinct).1 (isRoot ▸ isOwned)
  · exact Nat.le_sub_one_of_lt
      (below number (List.mem_cons_of_mem _ isOwned))

/-- A base class and a class that overrides its method without documenting it. -/
def overridingModules : List ApiObject :=
  [ .mk { name := "Base", tag := "class" }
      [.mk { name := "run", tag := "function", docstring := some "Runs" } []],
    .mk { name := "Derived", tag := "class", bases := ["Base"] }
      [.mk { name := "run", tag := "function" } []] ]

/-- The overriding method is filled in, and the numbers stay distinct. -/
theorem converted_ids_distinct_of_override :
    ∃ conversion,
      convertModules {} Interp.TypeParser.silent overridingModules =
          .ok conversion ∧
        conversion.project.root.ids.Nodup ∧
        conversion.project.root.id = rootId ∧
        ∀ number ∈ conversion.project.root.ownedIds,
          number ≠ rootId ∧ number ≤ numbersTaken {} overridingModules := by
  have inherits : (inherited {} overridingModules).failure = none := by
    decide +kernel
  obtain ⟨conversion, converted⟩ := exists_silent_conversion inherits
  exact ⟨conversion, converted, converted_ids_distinct converted⟩

end ApiTree.Convert
