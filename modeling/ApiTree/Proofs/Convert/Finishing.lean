import ApiTree.Convert.Conversion
import ApiTree.Proofs.Decl.Tree

namespace ApiTree.Convert

open ApiTree.Decl
open ApiTree.Dump (ApiObject)
open ApiTree.Interp (TypeParser)
open ApiTree.Resolve (Answers Pending Resolved)

/-!
# What a conversion is made of

A conversion that succeeds has assembled a tree, inherited its members, and
finished every node on its own: the type of a node is replaced, its references
are pointed at declarations, and at the top the groups are ordered.
-/

/-- What inheriting makes of the assembled declarations. -/
def inherited
    (options : Options)
    (modules : List ApiObject) :
    Inheriting :=
  (assemble options modules).2.hierarchy.resolve
    (assemble options modules).1 (assemble options modules).2.supply

/-- A node finished: its type replaced and its references pointed. -/
def finishInfo
    (resolved : Resolved)
    (lookup : String → Option DeclId)
    (info : Info) :
    Info :=
  (resolved.applyInfo info).retarget lookup

/-- The declaration that a name refers to at the end: the newest in the tree. -/
def declaredAs
    (options : Options)
    (modules : List ApiObject) :
    String → Option DeclId :=
  newestDeclared? (assemble options modules).2.declared
    (inherited options modules).root.ids

/-- The types that the answers give to the collected expressions. -/
def resolvedTypes
    (options : Options)
    (modules : List ApiObject)
    (answers : Answers) :
    Resolved :=
  (assemble options modules).2.pending.resolve answers

/-- A conversion that succeeds, in its parts. -/
structure Finished
    (options : Options)
    (parser : TypeParser)
    (modules : List ApiObject)
    (conversion : Conversion)
    (answers : Answers) :
    Prop where
  inherits : (inherited options modules).failure = none
  answered : parser (assemble options modules).2.pending.batch = .ok answers
  root_eq : conversion.project.root =
    ((inherited options modules).root.mapInfo
      (finishInfo (resolvedTypes options modules answers)
        (declaredAs options modules))).sortMembers

/-- Resolving the type of a node leaves all else. -/
theorem exists_applyInfo_eq
    (resolved : Resolved)
    (info : Info) :
    ∃ type, resolved.applyInfo info = { info with type := type } := by
  rw [Resolved.applyInfo]
  split
  · exact ⟨_, rfl⟩
  · exact ⟨info.type, rfl⟩

@[simp] theorem id_applyInfo
    (resolved : Resolved)
    (info : Info) :
    (resolved.applyInfo info).id = info.id := by
  obtain ⟨type, appliedEq⟩ := exists_applyInfo_eq resolved info
  rw [appliedEq]

@[simp] theorem id_finishInfo
    (resolved : Resolved)
    (lookup : String → Option DeclId)
    (info : Info) :
    (finishInfo resolved lookup info).id = info.id :=
  id_applyInfo resolved info

/-- A conversion that succeeds has these parts. -/
theorem exists_finished
    {options : Options}
    {parser : TypeParser}
    {modules : List ApiObject}
    {conversion : Conversion}
    (converted : convertModules options parser modules = .ok conversion) :
    ∃ answers, Finished options parser modules conversion answers := by
  simp only [convertModules] at converted
  split at converted
  · cases converted
  · rename_i inherits
    split at converted
    · cases converted
    · rename_i answers answered
      cases converted
      refine ⟨answers, inherits, answered, ?_⟩
      simp only [link, Declaration.retarget, Resolved.apply,
        Declaration.mapInfo_mapInfo, Declaration.ids_mapInfo (id_applyInfo _)]
      rfl

/-- A conversion succeeds if its members are inherited and its types answered. -/
theorem exists_conversion
    {options : Options}
    {parser : TypeParser}
    {modules : List ApiObject}
    {answers : Answers}
    (inherits : (inherited options modules).failure = none)
    (answered : parser (assemble options modules).2.pending.batch = .ok answers) :
    ∃ conversion, convertModules options parser modules = .ok conversion := by
  simp only [inherited] at inherits
  simp only [convertModules, inherits, answered]
  exact ⟨_, rfl⟩

/-- The conversion that resolved types give. -/
def conversionOf
    (options : Options)
    (modules : List ApiObject)
    (resolved : Resolved) :
    Conversion :=
  let assembly := (assemble options modules).2
  let (typed, resolvedTypes) := resolved.apply (inherited options modules).root
  let (project, linkedReferences) :=
    link assembly (inherited options modules).copies typed
  { project := project
    stats :=
      { modules := modules.length
        declarations := project.nodeCount
        inheritedMembers := (inherited options modules).members
        resolvedTypes := resolvedTypes
        linkedReferences := linkedReferences
        warnings := assembly.warnings }
    batch := assembly.pending.batch }

/--
A conversion asks its type parser by sending the batch, and only there; the parser may
keep a state.
-/
theorem convertModules_eq_resolveAll
    {options : Options}
    {modules : List ApiObject}
    (inherits : (inherited options modules).failure = none)
    {σ : Type}
    (parser : List String → σ → Except Interp.ParserError Answers × σ)
    (state : σ) :
    convertModules options (fun batch => (parser batch state).1) modules =
      match ((assemble options modules).2.pending.resolveAll parser state).1 with
      | .error error => .error (.types error)
      | .ok resolved => .ok (conversionOf options modules resolved) := by
  simp only [inherited] at inherits
  simp only [convertModules, inherits, Pending.resolveAll]
  cases (parser (assemble options modules).2.pending.batch state).1 <;> rfl

/-- Without types to resolve, a conversion succeeds if its members are inherited. -/
theorem exists_silent_conversion
    {options : Options}
    {modules : List ApiObject}
    (inherits : (inherited options modules).failure = none) :
    ∃ conversion,
      convertModules options TypeParser.silent modules = .ok conversion :=
  exists_conversion inherits rfl

/-- Finishing changes no number. -/
theorem Finished.ids_eq
    {options : Options}
    {parser : TypeParser}
    {modules : List ApiObject}
    {conversion : Conversion}
    {answers : Answers}
    (finished : Finished options parser modules conversion answers) :
    conversion.project.root.ids = (inherited options modules).root.ids := by
  rw [finished.root_eq, Declaration.ids_sortMembers]
  exact Declaration.ids_mapInfo (id_finishInfo _ _) _

/-- Ordering groups changes the groups of the node at the top only. -/
theorem forall₂_infos_sortMembers (declaration : Declaration) :
    List.Forall₂
      (fun before after => ∃ groups, after = { before with groups := groups })
      declaration.infos declaration.sortMembers.infos := by
  cases declaration with
  | node info children signatures parameters =>
      rw [Declaration.sortMembers, Declaration.updateInfo,
        Declaration.infos_node, Declaration.infos_node]
      refine .cons ⟨_, rfl⟩ (List.forall₂_same.mpr fun one _ => ?_)
      exact ⟨one.groups, rfl⟩

/-- What finishing makes of the number, the name, the type and the links of a node. -/
structure FinishesNode
    (resolved : Resolved)
    (lookup : String → Option DeclId)
    (before after : Info) :
    Prop where
  id_eq : after.id = before.id
  name_eq : after.name = before.name
  type_eq : after.type =
    (resolved.applyInfo before).type.map (TypeExpr.retarget lookup)
  extendedTypes_eq : after.extendedTypes =
    before.extendedTypes.map (Info.retarget.point lookup)
  extendedBy_eq : after.extendedBy =
    before.extendedBy.map (Info.retarget.point lookup)
  inheritedFrom_eq : after.inheritedFrom =
    before.inheritedFrom.map (Info.retarget.point lookup)

/-- Finishing a node resolves its type and points its links. -/
theorem finishesNode_finishInfo
    (resolved : Resolved)
    (lookup : String → Option DeclId)
    (info : Info)
    (groups : List Group) :
    FinishesNode resolved lookup info
      { finishInfo resolved lookup info with groups := groups } := by
  obtain ⟨type, appliedEq⟩ := exists_applyInfo_eq resolved info
  constructor <;> simp only [finishInfo, Info.retarget, appliedEq]

section

variable
    {options : Options}
    {parser : TypeParser}
    {modules : List ApiObject}
    {conversion : Conversion}
    {answers : Answers}

/-- Every node of the converted tree is one of the inherited tree, but for its groups. -/
theorem Finished.forall₂_regrouped
    (finished : Finished options parser modules conversion answers) :
    List.Forall₂
      (fun before after => ∃ groups, after =
        { finishInfo (resolvedTypes options modules answers)
            (declaredAs options modules) before with
          groups := groups })
      (inherited options modules).root.infos conversion.project.root.infos := by
  have sorted := forall₂_infos_sortMembers
    ((inherited options modules).root.mapInfo
      (finishInfo (resolvedTypes options modules answers)
        (declaredAs options modules)))
  rw [Declaration.infos_mapInfo, List.forall₂_map_left_iff,
    ← finished.root_eq] at sorted
  exact sorted

/-- Every node of the converted tree is one of the inherited tree, finished. -/
theorem Finished.forall₂_infos
    (finished : Finished options parser modules conversion answers) :
    List.Forall₂
      (FinishesNode (resolvedTypes options modules answers)
        (declaredAs options modules))
      (inherited options modules).root.infos conversion.project.root.infos := by
  refine finished.forall₂_regrouped.imp ?_
  rintro before after ⟨groups, rfl⟩
  exact finishesNode_finishInfo _ _ before groups

end

/-- What stands in the second of two matching lists matches something in the first. -/
theorem exists_of_mem_right
    {α β : Type}
    {related : α → β → Prop}
    {first : List α}
    {second : List β}
    (matching : List.Forall₂ related first second)
    {one : β}
    (member : one ∈ second) :
    ∃ other ∈ first, related other one := by
  induction matching with
  | nil =>
      cases member
  | cons headRelated _ inductionHypothesis =>
      rcases List.mem_cons.mp member with rfl | inRest
      · exact ⟨_, List.mem_cons_self, headRelated⟩
      · obtain ⟨other, isOther, isRelated⟩ := inductionHypothesis inRest
        exact ⟨other, List.mem_cons_of_mem _ isOther, isRelated⟩

end ApiTree.Convert
