import ApiTree.Proofs.Convert.References
import ApiTree.Proofs.Convert.Symbols
import ApiTree.Proofs.Hierarchy.Entries

namespace ApiTree.Decl

/-!
# What types do not decide

The types of declarations are the only thing that a type parser is asked for.
Two conversions of the same modules may get different answers; without their types
the projects that they give are the same, symbols and counts of declarations
included.
-/

/-- The information with the type left out. -/
def Info.withoutType (info : Info) : Info :=
  { info with type := none }

/-- The tree with the type of every node left out. -/
def Declaration.withoutTypes (declaration : Declaration) : Declaration :=
  declaration.mapInfo Info.withoutType

/-- The project with the type of every node left out. -/
def Project.withoutTypes (project : Project) : Project :=
  { project with root := project.root.withoutTypes }

/-- References outside the type are pointed without a look at the type. -/
theorem Info.withoutType_retarget
    (lookup : String → Option DeclId)
    (info : Info) :
    (info.retarget lookup).withoutType = info.withoutType.retarget lookup :=
  rfl

namespace Declaration

/-- Leaving out types keeps all numbers. -/
@[simp] theorem ids_withoutTypes (declaration : Declaration) :
    declaration.withoutTypes.ids = declaration.ids :=
  @ids_mapInfo Info.withoutType (fun _ => rfl) declaration

/-- The order of groups and entries does not depend on types. -/
theorem withoutTypes_sortMembers (declaration : Declaration) :
    declaration.sortMembers.withoutTypes =
      declaration.withoutTypes.sortMembers := by
  have entryName_eq (entry : DeclId) :
      declaration.withoutTypes.entryName entry = declaration.entryName entry := by
    have found : declaration.withoutTypes.findEntry? entry =
        (declaration.findEntry? entry).map withoutTypes :=
      findEntry?_mapInfo (fun _ _ _ => Iff.rfl) entry
    rw [entryName, entryName, found]
    cases declaration.findEntry? entry with
    | none => rfl
    | some child =>
        cases child
        rfl
  have sortEntries_eq (entries : List DeclId) :
      declaration.withoutTypes.sortEntries entries =
        declaration.sortEntries entries := by
    simp only [sortEntries, entryName_eq]
  rw [sortMembers, sortMembers]
  simp only [sortEntries_eq]
  cases declaration
  rfl

end Declaration

end ApiTree.Decl

namespace ApiTree.Convert

open ApiTree.Decl
open ApiTree.Dump (ApiObject)
open ApiTree.Interp (TypeParser)
open ApiTree.Resolve (Resolved)

/-- Resolving the type of a node changes nothing but its type. -/
theorem withoutType_applyInfo
    (resolved : Resolved)
    (info : Info) :
    (resolved.applyInfo info).withoutType = info.withoutType := by
  obtain ⟨type, appliedEq⟩ := exists_applyInfo_eq resolved info
  rw [appliedEq]
  rfl

/-- What a finished node is without its type does not depend on the resolved types. -/
theorem withoutType_finishInfo
    (resolved : Resolved)
    (lookup : String → Option DeclId)
    (info : Info) :
    (finishInfo resolved lookup info).withoutType =
      info.withoutType.retarget lookup := by
  rw [finishInfo, Info.withoutType_retarget, withoutType_applyInfo]

/-- The project of every conversion of some modules, without its types. -/
def untypedProject
    (options : Options)
    (modules : List ApiObject) :
    Project :=
  (link (assemble options modules).2 (inherited options modules).copies
    (inherited options modules).root.withoutTypes).1

section

variable
    {options : Options}
    {modules : List ApiObject}
    {parser : TypeParser}
    {conversion : Conversion}

/-- Without its types a converted project is the same whatever the answers are. -/
theorem withoutTypes_project
    (converted : convertModules options parser modules = .ok conversion) :
    conversion.project.withoutTypes = untypedProject options modules := by
  obtain ⟨answers, finished⟩ := exists_finished converted
  have sameRoot : conversion.project.root.withoutTypes =
      (untypedProject options modules).root := by
    rw [finished.root_eq, Declaration.withoutTypes_sortMembers]
    simp only [untypedProject, link, Declaration.ids_withoutTypes]
    simp only [Declaration.withoutTypes, Declaration.retarget,
      Declaration.mapInfo_mapInfo, withoutType_finishInfo]
    rfl
  have sameSymbols : conversion.project.symbols =
      (untypedProject options modules).symbols := by
    rw [symbols_eq_filter converted, finished.ids_eq]
    simp only [untypedProject, link, Declaration.ids_withoutTypes]
  rw [Project.withoutTypes, sameRoot, sameSymbols]

/-- The number of declarations does not depend on types. -/
theorem nodeCount_withoutTypes (project : Project) :
    project.withoutTypes.nodeCount = project.nodeCount := by
  have sameLength :=
    congrArg List.length (Declaration.ids_withoutTypes project.root)
  rwa [Declaration.ids, Declaration.ids, List.length_map, List.length_map] at sameLength

/-- All that a conversion reports but the counts of types and references. -/
theorem stats_of_converted
    (converted : convertModules options parser modules = .ok conversion) :
    conversion.stats =
      { conversion.stats with
        modules := modules.length
        declarations := conversion.project.nodeCount
        inheritedMembers := (inherited options modules).members
        warnings := (assemble options modules).2.warnings } ∧
      conversion.batch = (assemble options modules).2.pending.batch := by
  rw [inherited]
  rcases isAssembled : assemble options modules with ⟨assembled, assembly⟩
  simp only [convertModules, isAssembled] at converted
  generalize assembly.hierarchy.resolve assembled assembly.supply = inheriting at *
  split at converted
  · cases converted
  · split at converted
    · cases converted
    · cases converted
      exact ⟨rfl, rfl⟩

/--
Two conversions of the same modules send the same batch, and whatever the two type
parsers answer to it, the projects differ in the types of nodes only: without them
they are equal, with all numbers, groups, links and symbols.  The counts of modules,
declarations and inherited members and the warnings are equal too.
-/
theorem conversions_differ_in_types_only
    {first second : TypeParser}
    {one other : Conversion}
    (firstConverted : convertModules options first modules = .ok one)
    (secondConverted : convertModules options second modules = .ok other) :
    one.project.withoutTypes = other.project.withoutTypes ∧
      one.stats.declarations = other.stats.declarations ∧
      one.stats.inheritedMembers = other.stats.inheritedMembers ∧
      one.stats.modules = other.stats.modules ∧
      one.stats.warnings = other.stats.warnings ∧
      one.batch = other.batch := by
  have sameProject : one.project.withoutTypes = other.project.withoutTypes :=
    (withoutTypes_project firstConverted).trans
      (withoutTypes_project secondConverted).symm
  have sameCount : one.project.nodeCount = other.project.nodeCount := by
    rw [← nodeCount_withoutTypes, sameProject, nodeCount_withoutTypes]
  obtain ⟨firstStats, firstBatch⟩ := stats_of_converted firstConverted
  obtain ⟨secondStats, secondBatch⟩ := stats_of_converted secondConverted
  rw [firstStats, secondStats]
  exact ⟨sameProject, sameCount, rfl, rfl, rfl, firstBatch.trans secondBatch.symm⟩

end

/-- A class with a method that gives a list of instances, and a class that inherits it. -/
def listingMethodModules : List ApiObject :=
  [ .mk { name := "Base", tag := "class" }
      [ .mk { name := "all", tag := "function", returnType := some "list[Base]" }
          [] ],
    .mk { name := "Derived", tag := "class", bases := ["Base"] } [] ]

/--
The type of the method and of its copy is known to one of the parsers only, and its
argument refers to the class.
-/
theorem conversions_differ_in_types_only_of_list :
    ∃ one other,
      convertModules {} TypeParser.silent listingMethodModules = .ok one ∧
        convertModules {} listingParser listingMethodModules = .ok other ∧
        ("Base", some 1) ∉ one.project.root.infos.flatMap
          (fun info => (info.type.map TypeExpr.references).getD []) ∧
        ("Base", some 1) ∈ other.project.root.infos.flatMap
          (fun info => (info.type.map TypeExpr.references).getD []) ∧
        one.project.withoutTypes = other.project.withoutTypes ∧
        one.stats.inheritedMembers = other.stats.inheritedMembers := by
  have inherits : (inherited {} listingMethodModules).failure = none := by
    decide +kernel
  obtain ⟨one, firstConverted⟩ := exists_silent_conversion inherits
  have answered :
      listingParser (assemble {} listingMethodModules).2.pending.batch =
        .ok [("list[Base]", listOfBase)] :=
    rfl
  obtain ⟨other, secondConverted⟩ := exists_conversion inherits answered
  obtain ⟨sameProject, -, sameMembers, -⟩ :=
    conversions_differ_in_types_only firstConverted secondConverted
  refine ⟨one, other, firstConverted, secondConverted, ?_, ?_, sameProject,
    sameMembers⟩
  · obtain ⟨answers, finished⟩ := exists_finished firstConverted
    cases finished.answered
    rw [finished.root_eq]
    decide +kernel
  · obtain ⟨answers, finished⟩ := exists_finished secondConverted
    cases finished.answered
    rw [finished.root_eq]
    decide +kernel

end ApiTree.Convert
