import ApiTree.Proofs.Decl.Everywhere

namespace ApiTree.Decl

/-!
# Targets of references

A type expression names declarations at any depth, and every name may have a
target.  Pointing names at declarations reaches each of them, sets the target of
those that a table knows, and changes nothing else: without their targets the
expressions, and the trees that they stand in, are the same before and after.
-/

namespace TypeExpr

/-- What holds of an expression whenever it holds of its parts holds of all. -/
@[elab_as_elim]
theorem partsInduction
    {motive : TypeExpr → Prop}
    (named : ∀ name target arguments slot,
      (∀ one ∈ arguments, motive one) →
        motive (.named name target arguments slot))
    (literal : ∀ value, motive (.literal value))
    (union : ∀ members,
      (∀ one ∈ members, motive one) → motive (.union members))
    (tuple : ∀ elements,
      (∀ one ∈ elements, motive one) → motive (.tuple elements))
    (type : TypeExpr) :
    motive type := by
  -- The recursor treats lists of parts as a nested type with a motive of its own.
  refine @TypeExpr.rec motive (fun parts => ∀ one ∈ parts, motive one)
    named literal union tuple ?_ ?_ type
  · intro one member
    cases member
  · intro first rest firstHolds restHolds one member
    rcases List.mem_cons.mp member with isFirst | inRest
    · exact isFirst ▸ firstHolds
    · exact restHolds one inRest

theorem referencesOfAll_eq_flatMap (types : List TypeExpr) :
    referencesOfAll types = types.flatMap references := by
  induction types with
  | nil =>
      rfl
  | cons first rest inductionHypothesis =>
      simp [referencesOfAll, inductionHypothesis]

theorem retargetAll_eq_map
    (lookup : String → Option DeclId)
    (types : List TypeExpr) :
    retargetAll lookup types = types.map (retarget lookup) := by
  induction types with
  | nil =>
      rfl
  | cons first rest inductionHypothesis =>
      simp [retargetAll, inductionHypothesis]

/-! ## Pointing names at declarations -/

/-- A reference pointed at the declaration that a table has for its name. -/
def pointed
    (lookup : String → Option DeclId)
    (reference : String × Option DeclId) :
    String × Option DeclId :=
  (reference.1, lookup reference.1 <|> reference.2)

/-- Every reference in an expression is pointed, and none is added or dropped. -/
theorem references_retarget
    (lookup : String → Option DeclId)
    (type : TypeExpr) :
    (type.retarget lookup).references =
      type.references.map (pointed lookup) := by
  have each (parts : List TypeExpr)
      (hold : ∀ one ∈ parts,
        (one.retarget lookup).references = one.references.map (pointed lookup)) :
      referencesOfAll (retargetAll lookup parts) =
        (referencesOfAll parts).map (pointed lookup) := by
    rw [referencesOfAll_eq_flatMap, referencesOfAll_eq_flatMap,
      retargetAll_eq_map, List.flatMap_map, List.map_flatMap,
      List.flatMap_congr hold]
  induction type using partsInduction with
  | named name target arguments slot argumentsHold =>
      simp only [retarget, references, List.map_cons, each arguments argumentsHold]
      rfl
  | literal value =>
      rfl
  | union members membersHold =>
      exact each members membersHold
  | tuple elements elementsHold =>
      exact each elements elementsHold

mutual

/-- The expression with the target of every name left out. -/
def withoutTargets : TypeExpr → TypeExpr
  | .named name _ arguments slot =>
      .named name none (withoutTargetsOfAll arguments) slot
  | .literal value => .literal value
  | .union members => .union (withoutTargetsOfAll members)
  | .tuple elements => .tuple (withoutTargetsOfAll elements)

/-- Several expressions with the target of every name left out. -/
def withoutTargetsOfAll : List TypeExpr → List TypeExpr
  | [] => []
  | first :: rest => first.withoutTargets :: withoutTargetsOfAll rest

end

theorem withoutTargetsOfAll_eq_map (types : List TypeExpr) :
    withoutTargetsOfAll types = types.map withoutTargets := by
  induction types with
  | nil =>
      rfl
  | cons first rest inductionHypothesis =>
      simp [withoutTargetsOfAll, inductionHypothesis]

/-- Pointing names at declarations changes targets only. -/
@[simp] theorem withoutTargets_retarget
    (lookup : String → Option DeclId)
    (type : TypeExpr) :
    (type.retarget lookup).withoutTargets = type.withoutTargets := by
  have each (parts : List TypeExpr)
      (hold : ∀ one ∈ parts,
        (one.retarget lookup).withoutTargets = one.withoutTargets) :
      withoutTargetsOfAll (retargetAll lookup parts) =
        withoutTargetsOfAll parts := by
    rw [withoutTargetsOfAll_eq_map, withoutTargetsOfAll_eq_map,
      retargetAll_eq_map, List.map_map]
    exact List.map_congr_left hold
  induction type using partsInduction with
  | named name target arguments slot argumentsHold =>
      simp only [retarget, withoutTargets, each arguments argumentsHold]
  | literal value =>
      rfl
  | union members membersHold =>
      simp only [retarget, withoutTargets, each members membersHold]
  | tuple elements elementsHold =>
      simp only [retarget, withoutTargets, each elements elementsHold]

/-! ## Expressions without targets -/

/-- That no name in an expression has a target. -/
def Untargeted (type : TypeExpr) : Prop :=
  ∀ reference ∈ type.references, reference.2 = none

theorem untargeted_named_iff
    {name : String}
    {target : Option DeclId}
    {arguments : List TypeExpr}
    {slot : Option Nat} :
    Untargeted (.named name target arguments slot) ↔
      target = none ∧ ∀ one ∈ arguments, one.Untargeted := by
  simp only [Untargeted, references, referencesOfAll_eq_flatMap, List.mem_cons,
    List.mem_flatMap, forall_eq_or_imp]
  refine and_congr Iff.rfl ⟨?_, ?_⟩
  · intro untargeted one member reference inOne
    exact untargeted reference ⟨one, member, inOne⟩
  · rintro untargeted reference ⟨one, member, inOne⟩
    exact untargeted one member reference inOne

theorem untargeted_union_iff {members : List TypeExpr} :
    Untargeted (.union members) ↔ ∀ one ∈ members, one.Untargeted := by
  simp only [Untargeted, references, referencesOfAll_eq_flatMap,
    List.mem_flatMap]
  constructor
  · intro untargeted one member reference inOne
    exact untargeted reference ⟨one, member, inOne⟩
  · rintro untargeted reference ⟨one, member, inOne⟩
    exact untargeted one member reference inOne

theorem untargeted_tuple_iff {elements : List TypeExpr} :
    Untargeted (.tuple elements) ↔ ∀ one ∈ elements, one.Untargeted :=
  untargeted_union_iff

end TypeExpr

namespace Info

/-- That no name in the type of a declaration has a target. -/
def UntargetedType (info : Info) : Prop :=
  ∀ type, info.type = some type → type.Untargeted

/-- The information with the target of every reference left out. -/
def withoutTargets (info : Info) : Info :=
  { info with
    type := info.type.map TypeExpr.withoutTargets
    extendedTypes := info.extendedTypes.map detached
    extendedBy := info.extendedBy.map detached
    inheritedFrom := info.inheritedFrom.map detached }
where
  /-- A link without its target. -/
  detached (link : Link) : Link :=
    { link with target := none }

/-- Pointing the references of a declaration changes targets only. -/
theorem withoutTargets_retarget
    (lookup : String → Option DeclId)
    (info : Info) :
    (info.retarget lookup).withoutTargets = info.withoutTargets := by
  have links : withoutTargets.detached ∘ retarget.point lookup =
      withoutTargets.detached :=
    rfl
  have types : TypeExpr.withoutTargets ∘ TypeExpr.retarget lookup =
      TypeExpr.withoutTargets :=
    funext (TypeExpr.withoutTargets_retarget lookup)
  simp only [withoutTargets, retarget, List.map_map, Option.map_map, links,
    types]

end Info

/-- The type of a declaration is the same in all its copies. -/
theorem portable_untargetedType : Portable Info.UntargetedType :=
  fun _ _ _ _ untargeted => untargeted

namespace Declaration

/-- The tree with the target of every reference left out. -/
def withoutTargets (declaration : Declaration) : Declaration :=
  declaration.mapInfo Info.withoutTargets

/-- Pointing the references of a tree changes targets only. -/
theorem withoutTargets_retarget
    (lookup : String → Option DeclId)
    (declaration : Declaration) :
    (declaration.retarget lookup).withoutTargets =
      declaration.withoutTargets := by
  rw [withoutTargets, retarget, mapInfo_mapInfo]
  exact congrArg (mapInfo · declaration)
    (funext (Info.withoutTargets_retarget lookup))

end Declaration

end ApiTree.Decl
