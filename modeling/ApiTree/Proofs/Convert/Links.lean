import ApiTree.Proofs.Convert.Classes
import ApiTree.Proofs.Hierarchy.TakingOver

namespace ApiTree.Convert

open ApiTree.Decl
open ApiTree.Dump (ApiObject Argument Docstring Facts)
open ApiTree.Interp (TypeParser)

/-!
# Links in a converted project

Finishing a project changes no kind and leaves links where they are.  So only
classes are linked in a converted project if only classes were linked when
members were inherited, and that they were if no class of the hierarchy was
filled in or stood inside something that was.
-/

instance (info : Info) : Decidable (LinkedIfClass info) :=
  inferInstanceAs (Decidable (_ ∨ _))

instance
    (holds : Info → Prop)
    [DecidablePred holds]
    (declaration : Declaration) :
    Decidable (declaration.Everywhere holds) :=
  inferInstanceAs (Decidable (∀ info ∈ declaration.infos, holds info))

/-- Finishing a node changes neither its kind nor whether it is linked. -/
theorem linkedIfClass_finishInfo_iff
    (resolved : Resolve.Resolved)
    (lookup : String → Option DeclId)
    (info : Info) :
    LinkedIfClass (finishInfo resolved lookup info) ↔ LinkedIfClass info := by
  obtain ⟨type, appliedEq⟩ := exists_applyInfo_eq resolved info
  simp only [LinkedIfClass, finishInfo, Info.retarget, List.map_eq_nil_iff,
    appliedEq]

theorem linkedIfClass_sortMembers_iff
    (declaration : Declaration) :
    declaration.sortMembers.Everywhere LinkedIfClass ↔
      declaration.Everywhere LinkedIfClass := by
  cases declaration
  rw [Declaration.everywhere_iff, Declaration.everywhere_iff]
  rfl

/-- In a converted project those are linked that were linked by inheriting. -/
theorem Finished.linkedIfClass_iff
    {options : Options}
    {parser : TypeParser}
    {modules : List ApiObject}
    {conversion : Conversion}
    {answers : Resolve.Answers}
    (finished : Finished options parser modules conversion answers) :
    conversion.project.root.Everywhere LinkedIfClass ↔
      (inherited options modules).root.Everywhere LinkedIfClass := by
  rw [finished.root_eq, linkedIfClass_sortMembers_iff,
    Declaration.everywhere_mapInfo_iff]
  simp only [linkedIfClass_finishInfo_iff]

/-- That no class of a project, nor anything around one, is ever filled in. -/
def ClassesUndisturbed
    (options : Options)
    (modules : List ApiObject) :
    Prop :=
  let root := (assemble options modules).1
  let supply := (assemble options modules).2.supply
  let edges := (assemble options modules).2.hierarchy.resolvedEdges
  ∀ earlier, earlier <+: Hierarchy.schedule edges →
    Hierarchy.Undisturbed root supply edges
      (Hierarchy.flowAlong root supply earlier).root

/-- That the classes of a project, and what is around them, are documented. -/
def ClassesDocumented
    (options : Options)
    (modules : List ApiObject) :
    Prop :=
  Hierarchy.DocumentedEnds (assemble options modules).1
    (assemble options modules).2.hierarchy.resolvedEdges

/-- That inheriting in a project never links anything but classes. -/
def LinksOnlyClasses
    (options : Options)
    (modules : List ApiObject) :
    Prop :=
  let root := (assemble options modules).1
  let supply := (assemble options modules).2.supply
  let edges := (assemble options modules).2.hierarchy.resolvedEdges
  Hierarchy.LinksOnlyClasses root supply (Hierarchy.schedule edges)

/-- What is assembled is not linked yet. -/
theorem linkedIfClass_assemble
    (options : Options)
    (modules : List ApiObject) :
    (assemble options modules).1.Everywhere LinkedIfClass := by
  obtain ⟨plain, -⟩ := enrolls_assemble options modules
  exact fun info member => .inr (plain info member).unlinked

/--
When the turn of an edge comes, members flow between the two declarations that it names,
unless something around one of them was filled in.
-/
theorem edgeOutcome_of_scheduled
    {hierarchy : Hierarchy}
    {root : Declaration}
    {supply : IdSupply}
    {earlier later : List Edge}
    {edge : Edge}
    (scheduled :
      Hierarchy.schedule hierarchy.resolvedEdges = earlier ++ edge :: later)
    (running : (Hierarchy.flowAlong root supply earlier).failure = none) :
    Hierarchy.EdgeOutcome root supply hierarchy.resolvedEdges
      (Hierarchy.flowAlong root supply earlier) edge
      (Hierarchy.flowAlong root supply (earlier ++ [edge])) := by
  have included : earlier ⊆ hierarchy.resolvedEdges := by
    intro one isEarlier
    refine Hierarchy.schedule_subset _ ?_
    rw [scheduled]
    exact List.mem_append_left _ isEarlier
  exact Hierarchy.edgeOutcome_flowAlong included edge running

/--
When only classes are linked in a converted project: unless an edge strayed, which is when
something else was linked at some time.  No edge strays from classes that were not filled
in and did not stand inside anything that was; documented ones never are.
-/
structure ClassesLinked
    (options : Options)
    (modules : List ApiObject)
    (conversion : Conversion) :
    Prop where
  converted : LinksOnlyClasses options modules →
    conversion.project.root.Everywhere LinkedIfClass
  strays_iff : LinksOnlyClasses options modules ↔
    ∀ front, front <+: Hierarchy.schedule (assemble options modules).2.hierarchy.resolvedEdges →
      (Hierarchy.flowAlong (assemble options modules).1 (assemble options modules).2.supply
        front).root.Everywhere LinkedIfClass
  undisturbed : ClassesUndisturbed options modules → LinksOnlyClasses options modules
  documented : ClassesDocumented options modules → ClassesUndisturbed options modules

theorem classesLinked_of_converted
    {options : Options}
    {parser : TypeParser}
    {modules : List ApiObject}
    {conversion : Conversion}
    (converted : convertModules options parser modules = .ok conversion) :
    ClassesLinked options modules conversion := by
  obtain ⟨answers, finished⟩ := exists_finished converted
  have unlinked := linkedIfClass_assemble options modules
  refine ⟨?_, ?_, ?_, ?_⟩
  · intro links
    rw [finished.linkedIfClass_iff, inherited, Hierarchy.resolve_eq_flowAlong]
    exact Hierarchy.linkedIfClass_flowAlong links unlinked (List.prefix_refl _)
  · exact Hierarchy.linksOnlyClasses_iff unlinked finished.inherits
  · exact Hierarchy.linksOnlyClasses_of_undisturbed (Hierarchy.schedule_subset _)
      (classEnds_assemble options modules)
  · intro documented front _
    exact Hierarchy.DocumentedEnds.undisturbed documented _ _

/--
When the turn of an edge comes, members flow between the two declarations that
it names, unless something around one of them was filled in.  And in a converted
project only classes are linked, unless an edge strayed: exactly then something
else was linked at some time.  No edge strays from classes that were not filled
in and did not stand inside anything that was; documented ones never are.
-/
theorem edges_reach_their_classes
    {hierarchy : Hierarchy}
    {root : Declaration}
    {supply : IdSupply}
    {earlier later : List Edge}
    {edge : Edge}
    (scheduled :
      Hierarchy.schedule hierarchy.resolvedEdges = earlier ++ edge :: later)
    (running : (Hierarchy.flowAlong root supply earlier).failure = none)
    {options : Options}
    {parser : TypeParser}
    {modules : List ApiObject}
    {conversion : Conversion}
    (converted : convertModules options parser modules = .ok conversion) :
    Hierarchy.EdgeOutcome root supply hierarchy.resolvedEdges
        (Hierarchy.flowAlong root supply earlier) edge
        (Hierarchy.flowAlong root supply (earlier ++ [edge])) ∧
      ClassesLinked options modules conversion :=
  ⟨edgeOutcome_of_scheduled scheduled running, classesLinked_of_converted converted⟩

/-- The classes of this project are members of the project itself. -/
theorem classesDocumented_overridingModules :
    ClassesDocumented {} overridingModules := by
  have edges :
      (assemble {} overridingModules).2.hierarchy.resolvedEdges = [(1, 4)] := by
    decide +kernel
  have paths :
      (assemble {} overridingModules).1.childPaths.lookup 1 = some [0] ∧
        (assemble {} overridingModules).1.childPaths.lookup 4 = some [1] := by
    decide +kernel
  rw [ClassesDocumented, edges]
  refine Hierarchy.documentedEnds_of_top ?_ ?_
  · rintro path ⟨edge, isEdge, looked⟩
    obtain rfl := List.mem_singleton.mp isEdge
    rcases looked with ancestorLooked | descendantLooked
    · cases paths.1.symm.trans ancestorLooked
      exact Nat.le_refl 1
    · cases paths.2.symm.trans descendantLooked
      exact Nat.le_refl 1
  · intro edge isEdge
    obtain rfl := List.mem_singleton.mp isEdge
    rw [id_assemble]
    decide

/-- The one edge of two classes, and a project in which only classes are linked. -/
theorem edges_reach_their_classes_of_override :
    ∃ conversion,
      convertModules {} TypeParser.silent overridingModules = .ok conversion ∧
        Hierarchy.EdgeOutcome Hierarchy.nestedClasses ⟨6⟩
          Hierarchy.derivedExtendsBase.resolvedEdges
          (Hierarchy.flowAlong Hierarchy.nestedClasses ⟨6⟩ []) (1, 3)
          (Hierarchy.flowAlong Hierarchy.nestedClasses ⟨6⟩ [(1, 3)]) ∧
        conversion.project.root.Everywhere LinkedIfClass := by
  have inherits : (inherited {} overridingModules).failure = none := by
    decide +kernel
  have scheduled :
      Hierarchy.schedule Hierarchy.derivedExtendsBase.resolvedEdges =
        [] ++ (1, 3) :: [] := by
    decide +kernel
  obtain ⟨conversion, converted⟩ := exists_silent_conversion inherits
  have running :
      (Hierarchy.flowAlong Hierarchy.nestedClasses ⟨6⟩ []).failure = none :=
    rfl
  obtain ⟨outcome, classesLinked⟩ := edges_reach_their_classes scheduled running converted
  exact ⟨conversion, converted, outcome, classesLinked.converted
    (classesLinked.undisturbed (classesLinked.documented classesDocumented_overridingModules))⟩

/-- A documented object of a class of objects. -/
def documentedObject
    (name tag doc : String)
    (members : List ApiObject) :
    ApiObject :=
  .mk { name := name, tag := tag, docstring := some doc } members

/--
A nested class is filled in by one of its base class, and what stood inside it
extends a class whose members are inherited afterwards.
-/
def strayingModules : List ApiObject :=
  [ .mk { name := "pkg", tag := "module" }
      [ .mk { name := "Base", tag := "class" }
          [documentedObject "Inner" "class" "Inner of base"
            [documentedObject "run" "function" "Runs" []]],
        .mk { name := "Derived", tag := "class", bases := ["Base"] }
          [.mk { name := "Inner", tag := "class" }
            [.mk { name := "Deep", tag := "class", bases := ["Helper"] } []]],
        .mk { name := "Helper", tag := "class", bases := ["Derived"] }
          [documentedObject "help" "function" "Helps" []] ] ]

/-- A copied method is taken for the class that stood in its place. -/
theorem copied_method_is_linked :
    ∃ conversion,
      convertModules {} TypeParser.silent strayingModules = .ok conversion ∧
        ¬ conversion.project.root.Everywhere LinkedIfClass := by
  have inherits : (inherited {} strayingModules).failure = none := by
    decide +kernel
  obtain ⟨conversion, converted⟩ := exists_silent_conversion inherits
  obtain ⟨answers, finished⟩ := exists_finished converted
  refine ⟨conversion, converted, ?_⟩
  rw [finished.linkedIfClass_iff]
  decide +kernel

end ApiTree.Convert
