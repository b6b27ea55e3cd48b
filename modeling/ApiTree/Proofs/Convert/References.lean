import ApiTree.Proofs.Convert.Declared
import ApiTree.Proofs.Resolve.Pending

namespace ApiTree.Convert

open ApiTree.Decl
open ApiTree.Dump (ApiObject Argument Docstring Facts)
open ApiTree.Interp (TypeParser)
open ApiTree.Resolve (Answers Resolved UntargetedAnswers)

/-!
# References in a converted project

References by name are pointed at declarations once all types are resolved.  No
type has a target before, so afterwards a name in a type has one exactly if a
declaration of that name was made and is still in the tree.  The target is then
the last such declaration that was made, and nothing but targets has changed.
-/

/-- That a node of a name and a number is in a tree. -/
def Bears
    (declaration : Declaration)
    (name : String)
    (number : DeclId) :
    Prop :=
  ∃ info ∈ declaration.infos, info.id = number ∧ info.name = name

theorem Bears.mem_ids
    {declaration : Declaration}
    {name : String}
    {number : DeclId}
    (bears : Bears declaration name number) :
    number ∈ declaration.ids := by
  obtain ⟨info, member, rfl, -⟩ := bears
  rw [Declaration.ids_eq_map_infos]
  exact List.mem_map.mpr ⟨info, member, rfl⟩

/-- A node that is found on a path is in the tree. -/
theorem bears_of_names
    {declaration : Declaration}
    {name : String}
    {number : DeclId}
    (names : declaration.Names name number) :
    Bears declaration name number := by
  obtain ⟨path, found, leads, isNamed, isNumber⟩ := names
  exact ⟨found.info,
    Declaration.infos_subset_of_descendant? leads found.info_mem_infos, isNumber,
    isNamed⟩

section

variable
    {options : Options}
    {modules : List ApiObject}

/-- Inheriting lets the assembled tree evolve. -/
theorem evolves_inherited
    (options : Options)
    (modules : List ApiObject) :
    Evolves (assemble options modules).2.supply.next
      (Hierarchy.ExtendsAt (assemble options modules).1
        (assemble options modules).2.hierarchy.resolvedEdges)
      (assemble options modules).1 (inherited options modules).root :=
  Hierarchy.evolves_resolve _ _ _

/-- A declaration that was made and is still in the tree has kept its name. -/
theorem bears_inherited
    {name : String}
    {number : DeclId}
    (declared : (assemble options modules).1.NamesBelow name number)
    (isPresent : number ∈ (inherited options modules).root.ids) :
    Bears (inherited options modules).root name number := by
  have numbered := numberedFrom_assemble options modules
  have bears := bears_of_names (Declaration.names_iff.mpr (.inr declared))
  have isOld : number < (assemble options modules).2.supply.next :=
    numbered.below _ bears.mem_ids
  obtain ⟨made, isMade, madeId, madeName⟩ := bears
  rw [Declaration.ids_eq_map_infos] at isPresent
  obtain ⟨info, member, rfl⟩ := List.mem_map.mp isPresent
  rcases keeps_or_new_of_evolves (evolves_inherited options modules) member with
      ⟨old, inMade, sameId, sameName⟩ | isNew
  · have distinct := numbered.distinct
    rw [Declaration.ids_eq_map_infos] at distinct
    obtain rfl : old = made :=
      List.inj_on_of_nodup_map distinct inMade isMade
        (sameId.trans madeId.symm)
    exact ⟨info, member, rfl, sameName.symm.trans madeName⟩
  · exact (Nat.not_lt.mpr isNew isOld).elim

/-- No type of the assembled declarations or their copies points anywhere. -/
theorem untargetedType_inherited
    (options : Options)
    (modules : List ApiObject) :
    (inherited options modules).root.Everywhere Info.UntargetedType := by
  obtain ⟨plain, -⟩ := enrolls_assemble options modules
  exact Hierarchy.everywhere_flowAlong portable_untargetedType
    (fun _ _ _ untargeted => untargeted)
    (fun info member => (plain info member).untargeted) _

variable
    {parser : TypeParser}
    {conversion : Conversion}
    {answers : Answers}

/-- Finishing keeps every node's number and name. -/
theorem Finished.bears_iff
    (finished : Finished options parser modules conversion answers)
    {name : String}
    {number : DeclId} :
    Bears conversion.project.root name number ↔
      Bears (inherited options modules).root name number := by
  constructor
  · rintro ⟨info, member, isNumber, isNamed⟩
    obtain ⟨before, isBefore, finishes⟩ :=
      exists_of_mem_right finished.forall₂_infos member
    exact ⟨before, isBefore, finishes.id_eq.symm.trans isNumber,
      finishes.name_eq.symm.trans isNamed⟩
  · rintro ⟨info, member, isNumber, isNamed⟩
    obtain ⟨after, isAfter, finishes⟩ :=
      exists_of_mem_right finished.forall₂_infos.flip member
    exact ⟨after, isAfter, finishes.id_eq.trans isNumber,
      finishes.name_eq.trans isNamed⟩

/-- The declarations a name may refer to: those made and still in the tree. -/
theorem Finished.isSome_declaredAs_iff
    (finished : Finished options parser modules conversion answers)
    {name : String} :
    (declaredAs options modules name).isSome = true ↔
      ∃ number, (assemble options modules).1.NamesBelow name number ∧
        Bears conversion.project.root name number := by
  rw [declaredAs, isSome_newestDeclared?_iff]
  constructor
  · rintro ⟨number, declared, isPresent⟩
    exact ⟨number, declared,
      finished.bears_iff.mpr (bears_inherited declared isPresent)⟩
  · rintro ⟨number, declared, bears⟩
    exact ⟨number, declared, (finished.bears_iff.mp bears).mem_ids⟩

/-- A name refers to the last declaration of that name that is still in the tree. -/
theorem Finished.declaredAs_eq_some_iff
    (finished : Finished options parser modules conversion answers)
    {name : String}
    {number : DeclId} :
    declaredAs options modules name = some number ↔
      IsNewest options modules conversion.project.root.ids name number := by
  rw [declaredAs, newestDeclared?_eq_some_iff, finished.ids_eq]

/-- What a name refers to bears that name. -/
theorem Finished.bears_of_isNewest
    (finished : Finished options parser modules conversion answers)
    {name : String}
    {number : DeclId}
    (newest : IsNewest options modules conversion.project.root.ids name number) :
    Bears conversion.project.root name number := by
  refine finished.bears_iff.mpr (bears_inherited newest.declared ?_)
  rw [← finished.ids_eq]
  exact newest.isPresent

/-- Every name in a type of the converted project was pointed at a declaration. -/
theorem Finished.exists_pointed
    (finished : Finished options parser modules conversion answers)
    (untargeted : UntargetedAnswers answers)
    {info : Info}
    (member : info ∈ conversion.project.root.infos)
    {type : TypeExpr}
    (typeEq : info.type = some type)
    {reference : String × Option DeclId}
    (isReference : reference ∈ type.references) :
    reference.2 = declaredAs options modules reference.1 := by
  obtain ⟨before, isBefore, finishes⟩ :=
    exists_of_mem_right finished.forall₂_infos member
  have resolvedUntargeted :
      ((resolvedTypes options modules answers).applyInfo before).UntargetedType :=
    Resolved.untargetedType_applyInfo
      (fun _ _ got => Resolve.Pending.untargeted_of_get?_resolve untargeted _ got)
      (untargetedType_inherited options modules before isBefore)
  rw [finishes.type_eq] at typeEq
  obtain ⟨resolvedType, resolvedEq, rfl⟩ := Option.map_eq_some_iff.mp typeEq
  rw [TypeExpr.references_retarget] at isReference
  obtain ⟨earlier, inResolved, rfl⟩ := List.mem_map.mp isReference
  have noTarget := resolvedUntargeted resolvedType resolvedEq earlier inResolved
  simp only [TypeExpr.pointed, noTarget]
  cases declaredAs options modules earlier.1 <;> rfl

/--
In a converted project whose answers bring no targets, a name in a type has a
target exactly if a declaration of that name was made and is still in the tree.
The target is the last such declaration that was made, and the node of that
number bears the name.  Pointing the references of the tree with its resolved
types at declarations changes targets only.
-/
theorem type_references_point_at_newest
    (untargeted : ∀ batch answers,
      parser batch = .ok answers → UntargetedAnswers answers)
    (converted : convertModules options parser modules = .ok conversion) :
    let assembled := assemble options modules
    let root := conversion.project.root
    ((∀ name number,
        (name, number) ∈ assembled.2.declared ↔
          assembled.1.NamesBelow name number) ∧
      assembled.2.declared.Pairwise fun newer older => older.2 < newer.2) ∧
    (∀ info ∈ root.infos, ∀ type, info.type = some type →
      ∀ reference ∈ type.references,
        (reference.2.isSome = true ↔
          ∃ number, assembled.1.NamesBelow reference.1 number ∧
            Bears root reference.1 number) ∧
        ∀ target, reference.2 = some target →
          IsNewest options modules root.ids reference.1 target ∧
            Bears root reference.1 target) ∧
    ∃ answers, parser assembled.2.pending.batch = .ok answers ∧
      let typed := (inherited options modules).root.mapInfo
        (resolvedTypes options modules answers).applyInfo
      root = (typed.retarget (declaredAs options modules)).sortMembers ∧
        (typed.retarget (declaredAs options modules)).withoutTargets =
          typed.withoutTargets := by
  obtain ⟨answers, finished⟩ := exists_finished converted
  have answersUntargeted := untargeted _ _ finished.answered
  refine ⟨registered_assemble options modules, ?_, ?_⟩
  · intro info member type typeEq reference isReference
    have pointed :=
      finished.exists_pointed answersUntargeted member typeEq isReference
    constructor
    · rw [pointed]
      exact finished.isSome_declaredAs_iff
    · intro target isTarget
      have newest :=
        finished.declaredAs_eq_some_iff.mp (pointed.symm.trans isTarget)
      exact ⟨newest, finished.bears_of_isNewest newest⟩
  · refine ⟨answers, finished.answered, ?_,
      Declaration.withoutTargets_retarget _ _⟩
    rw [finished.root_eq, Declaration.retarget, Declaration.mapInfo_mapInfo]
    rfl

end

/-- A class and a function that gives a list of its instances. -/
def listingModules : List ApiObject :=
  [ .mk { name := "Base", tag := "class" } [],
    .mk { name := "make", tag := "function", returnType := some "list[Base]" }
      [] ]

/-- The written form of a list of instances of the class. -/
def listOfBase : ApiTree.Json.Value :=
  .object
    [ ("type", .string "reference"), ("name", .string "list"),
      ("typeArguments",
        .array
          [.object [("type", .string "reference"), ("name", .string "Base")]]) ]

/-- A type parser that knows one expression. -/
def listingParser : TypeParser :=
  fun _ => .ok [("list[Base]", listOfBase)]

/-- The class is found inside the type of the function. -/
theorem type_references_point_at_newest_of_list :
    ∃ conversion,
      convertModules {} listingParser listingModules = .ok conversion ∧
        ("Base", some 1) ∈ conversion.project.root.references ∧
        ∀ info ∈ conversion.project.root.infos, ∀ type, info.type = some type →
          ∀ reference ∈ type.references,
            (reference.2.isSome = true ↔
              ∃ number,
                (assemble {} listingModules).1.NamesBelow reference.1 number ∧
                  Bears conversion.project.root reference.1 number) := by
  have inherits : (inherited {} listingModules).failure = none := by
    decide +kernel
  have isRead :
      TypeExpr.read listOfBase =
        .ok (.named "list" none [.ofName "Base"] none) :=
    rfl
  have untargeted (batch : List String) (answers : Answers)
      (answered : listingParser batch = .ok answers) :
      UntargetedAnswers answers := by
    cases answered
    intro answer isAnswer type readOk
    obtain rfl := List.mem_singleton.mp isAnswer
    cases isRead.symm.trans readOk
    exact TypeExpr.untargeted_named_iff.mpr ⟨rfl, by
      simp [TypeExpr.ofName, TypeExpr.untargeted_named_iff]⟩
  have answered :
      listingParser (assemble {} listingModules).2.pending.batch =
        .ok [("list[Base]", listOfBase)] :=
    rfl
  obtain ⟨conversion, converted⟩ := exists_conversion inherits answered
  obtain ⟨-, pointed, -⟩ := type_references_point_at_newest untargeted converted
  refine ⟨conversion, converted, ?_, ?_⟩
  · obtain ⟨answers, finished⟩ := exists_finished converted
    cases finished.answered
    rw [finished.root_eq]
    decide +kernel
  · intro info member type typeEq reference isReference
    exact (pointed info member type typeEq reference isReference).1

end ApiTree.Convert
