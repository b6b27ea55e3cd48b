import ApiTree.Proofs.Decl.Targets

namespace ApiTree.Decl.TypeExpr

/-!
# Unions inside unions

A type is flat if no union stands directly inside a union.  Flattening a type puts the
members of such a union in its place, and leaves a type as it is exactly if it is flat.
-/

/-- Whether a type is a union. -/
def isUnion : TypeExpr → Bool
  | .union _ => true
  | _ => false

/-- What a type adds to a union: the members of a union, or itself. -/
def alternatives : TypeExpr → List TypeExpr
  | .union members => members
  | other => [other]

theorem alternatives_eq_self
    {type : TypeExpr}
    (noUnion : type.isUnion = false) :
    type.alternatives = [type] := by
  cases type with
  | union members => cases noUnion
  | named _ _ _ _ | literal _ | tuple _ => rfl

mutual

/-- Whether no union stands directly inside a union. -/
def isFlat : TypeExpr → Bool
  | .named _ _ arguments _ => areFlat arguments
  | .literal _ => true
  | .union members => members.all (!·.isUnion) && areFlat members
  | .tuple elements => areFlat elements

/-- Whether each of several types is flat. -/
def areFlat : List TypeExpr → Bool
  | [] => true
  | first :: rest => first.isFlat && areFlat rest

end

mutual

/-- A type with the members of a union in the place of one inside another. -/
def flatten : TypeExpr → TypeExpr
  | .named name target arguments slot =>
      .named name target (flattenAll arguments) slot
  | .literal value => .literal value
  | .union members => .union ((flattenAll members).flatMap alternatives)
  | .tuple elements => .tuple (flattenAll elements)

/-- Several types, each flattened. -/
def flattenAll : List TypeExpr → List TypeExpr
  | [] => []
  | first :: rest => first.flatten :: flattenAll rest

end

theorem areFlat_eq_all (types : List TypeExpr) :
    areFlat types = types.all isFlat := by
  induction types with
  | nil => rfl
  | cons first rest inductionHypothesis =>
      rw [areFlat, inductionHypothesis, List.all_cons]

theorem flattenAll_eq_map (types : List TypeExpr) :
    flattenAll types = types.map flatten := by
  induction types with
  | nil => rfl
  | cons first rest inductionHypothesis =>
      rw [flattenAll, inductionHypothesis, List.map_cons]

theorem isFlat_named_iff
    {name : String}
    {target : Option DeclId}
    {arguments : List TypeExpr}
    {slot : Option Nat} :
    (named name target arguments slot).isFlat ↔
      ∀ argument ∈ arguments, argument.isFlat := by
  rw [isFlat, areFlat_eq_all, List.all_eq_true]

theorem isFlat_tuple_iff {elements : List TypeExpr} :
    (tuple elements).isFlat ↔ ∀ element ∈ elements, element.isFlat := by
  rw [isFlat, areFlat_eq_all, List.all_eq_true]

theorem isFlat_union_iff {members : List TypeExpr} :
    (union members).isFlat ↔
      ∀ member ∈ members, member.isUnion = false ∧ member.isFlat := by
  rw [isFlat, areFlat_eq_all, Bool.and_eq_true, List.all_eq_true, List.all_eq_true]
  simp only [Bool.not_eq_eq_eq_not, Bool.not_true]
  exact forall₂_and.symm

/-- What a flat type adds to a union are flat types that are no unions. -/
theorem forall_alternatives
    {type : TypeExpr}
    (flat : type.isFlat) :
    ∀ one ∈ type.alternatives, one.isUnion = false ∧ one.isFlat := by
  cases isOne : type.isUnion with
  | true =>
      cases type with
      | union members => exact isFlat_union_iff.mp flat
      | named _ _ _ _ | literal _ | tuple _ => cases isOne
  | false =>
      rw [alternatives_eq_self isOne]
      rintro one (_ | ⟨_, ⟨⟩⟩)
      exact ⟨isOne, flat⟩

/-- The union of what flat types add to it is flat. -/
theorem isFlat_union_flatMap
    {types : List TypeExpr}
    (flat : ∀ type ∈ types, type.isFlat) :
    (union (types.flatMap alternatives)).isFlat := by
  rw [isFlat_union_iff]
  intro one isMember
  obtain ⟨type, isType, isAlternative⟩ := List.mem_flatMap.mp isMember
  exact forall_alternatives (flat type isType) one isAlternative

/-- A flattened type is flat. -/
theorem isFlat_flatten (type : TypeExpr) : type.flatten.isFlat := by
  have each (parts : List TypeExpr)
      (hold : ∀ one ∈ parts, one.flatten.isFlat) :
      ∀ one ∈ flattenAll parts, one.isFlat := by
    rw [flattenAll_eq_map]
    exact List.forall_mem_map.mpr hold
  induction type using partsInduction with
  | named name target arguments slot argumentsHold =>
      rw [flatten]
      exact isFlat_named_iff.mpr (each arguments argumentsHold)
  | literal value => rfl
  | union members membersHold =>
      rw [flatten]
      exact isFlat_union_flatMap (each members membersHold)
  | tuple elements elementsHold =>
      rw [flatten]
      exact isFlat_tuple_iff.mpr (each elements elementsHold)

/-- A flat type is flattened to itself. -/
theorem flatten_eq_self_of_isFlat
    {type : TypeExpr}
    (flat : type.isFlat) :
    type.flatten = type := by
  have each (parts : List TypeExpr)
      (hold : ∀ one ∈ parts, one.isFlat → one.flatten = one)
      (partsFlat : ∀ one ∈ parts, one.isFlat) :
      flattenAll parts = parts := by
    rw [flattenAll_eq_map]
    have selves : parts.map flatten = parts.map fun one => one :=
      List.map_congr_left fun one isPart => hold one isPart (partsFlat one isPart)
    rw [selves, List.map_id']
  induction type using partsInduction with
  | named name target arguments slot argumentsHold =>
      rw [flatten, each arguments argumentsHold (isFlat_named_iff.mp flat)]
  | literal value => rfl
  | union members membersHold =>
      have inMembers := isFlat_union_iff.mp flat
      rw [flatten, each members membersHold fun one isMember =>
        (inMembers one isMember).2]
      have selves : members.flatMap alternatives = members.flatMap fun one => [one] :=
        List.flatMap_congr fun one isMember =>
          alternatives_eq_self (inMembers one isMember).1
      rw [selves, List.flatMap_singleton']
  | tuple elements elementsHold =>
      rw [flatten, each elements elementsHold (isFlat_tuple_iff.mp flat)]

/-- Flattening leaves a type as it is exactly if it is flat. -/
theorem eq_flatten_iff {type : TypeExpr} :
    type = type.flatten ↔ type.isFlat :=
  ⟨fun same => same ▸ isFlat_flatten type,
    fun flat => (flatten_eq_self_of_isFlat flat).symm⟩

end ApiTree.Decl.TypeExpr
