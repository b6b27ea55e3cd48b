import ApiTree.Proofs.Decl.Unions
import ApiTree.Proofs.Resolve.Pending

namespace ApiTree.Resolve

open ApiTree.Decl (TypeExpr)

/-!
# Following aliases

Where what aliases stand for mentions no alias, following aliases ends after one step.
The type that this gives is flat unless an alias that stands for a union is itself a
member of a union.
-/

variable
    {lookup : String → Option TypeExpr}

/-! ## Bare names -/

mutual

/-- The names without arguments in a type. -/
def bareNames : TypeExpr → List String
  | .named name _ [] _ => [name]
  | .named _ _ (first :: rest) _ => bareNamesOfAll (first :: rest)
  | .literal _ => []
  | .union members => bareNamesOfAll members
  | .tuple elements => bareNamesOfAll elements

/-- The names without arguments in several types. -/
def bareNamesOfAll : List TypeExpr → List String
  | [] => []
  | first :: rest => bareNames first ++ bareNamesOfAll rest

end

theorem bareNamesOfAll_eq_flatMap (types : List TypeExpr) :
    bareNamesOfAll types = types.flatMap bareNames := by
  induction types with
  | nil => rfl
  | cons first rest inductionHypothesis =>
      rw [bareNamesOfAll, inductionHypothesis, List.flatMap_cons]

/-- A type in which no bare name is known stays as it is. -/
theorem replaceBare_eq_self
    {type : TypeExpr}
    (own : ∀ name ∈ bareNames type, lookup name = none) :
    replaceBare lookup type = type := by
  have each (parts : List TypeExpr)
      (hold : ∀ one ∈ parts, (∀ name ∈ bareNames one, lookup name = none) →
        replaceBare lookup one = one)
      (partsOwn : ∀ name ∈ bareNamesOfAll parts, lookup name = none) :
      replaceBareAll lookup parts = parts := by
    rw [bareNamesOfAll_eq_flatMap] at partsOwn
    have selves : parts.map (replaceBare lookup) = parts.map fun one => one :=
      List.map_congr_left fun one isPart =>
        hold one isPart fun name isName =>
          partsOwn name (List.mem_flatMap.mpr ⟨one, isPart, isName⟩)
    rw [replaceBareAll_eq_map, selves, List.map_id']
  induction type using TypeExpr.partsInduction with
  | named name target arguments slot argumentsHold =>
      cases arguments with
      | nil => rw [replaceBare, own name (List.mem_singleton.mpr rfl)]
      | cons first rest => rw [replaceBare, each _ argumentsHold own]
  | literal value => rfl
  | union members membersHold => rw [replaceBare, each members membersHold own]
  | tuple elements elementsHold => rw [replaceBare, each elements elementsHold own]

theorem expandAliases_eq_self
    {type : TypeExpr}
    (own : ∀ name ∈ bareNames type, lookup name = none)
    (steps : Nat) :
    expandAliases lookup steps type = type := by
  cases steps with
  | zero => rfl
  | succ steps =>
      refine replaceBare_eq_self fun name isName => ?_
      rw [own name isName]
      rfl

/-- Aliases are followed once if what they stand for mentions none. -/
theorem expandAliases_succ
    (aliasFree : ∀ name replacement, lookup name = some replacement →
      ∀ other ∈ bareNames replacement, lookup other = none)
    (steps : Nat)
    (type : TypeExpr) :
    expandAliases lookup (steps + 1) type = replaceBare lookup type := by
  have once : (fun name => (lookup name).map (expandAliases lookup steps)) = lookup := by
    funext name
    cases isKnown : lookup name with
    | none => rfl
    | some replacement =>
        rw [Option.map_some,
          expandAliases_eq_self (aliasFree name replacement isKnown)]
  rw [expandAliases, once]

/-! ## Unions that replace members of unions -/

/-- Whether a type is a bare name that stands for a union. -/
def namesUnion (lookup : String → Option TypeExpr) : TypeExpr → Bool
  | .named name _ [] _ => (lookup name).any TypeExpr.isUnion
  | _ => false

mutual

/-- Whether no member of a union in a type is a bare name that stands for a union. -/
def staysFlat (lookup : String → Option TypeExpr) : TypeExpr → Bool
  | .named _ _ arguments _ => stayFlat lookup arguments
  | .literal _ => true
  | .union members => members.all (!namesUnion lookup ·) && stayFlat lookup members
  | .tuple elements => stayFlat lookup elements

/-- Whether this holds of each of several types. -/
def stayFlat (lookup : String → Option TypeExpr) : List TypeExpr → Bool
  | [] => true
  | first :: rest => staysFlat lookup first && stayFlat lookup rest

end

theorem stayFlat_iff {types : List TypeExpr} :
    stayFlat lookup types ↔ ∀ type ∈ types, staysFlat lookup type := by
  induction types with
  | nil => simp [stayFlat]
  | cons first rest inductionHypothesis =>
      rw [stayFlat, Bool.and_eq_true, inductionHypothesis, List.forall_mem_cons]

theorem staysFlat_union_iff {members : List TypeExpr} :
    staysFlat lookup (.union members) ↔
      ∀ member ∈ members,
        namesUnion lookup member = false ∧ staysFlat lookup member := by
  rw [staysFlat, Bool.and_eq_true, List.all_eq_true, stayFlat_iff]
  simp only [Bool.not_eq_eq_eq_not, Bool.not_true]
  exact forall₂_and.symm

/-- A type that is no union is replaced by a union exactly if it stands for one. -/
theorem isUnion_replaceBare
    {type : TypeExpr}
    (noUnion : type.isUnion = false) :
    (replaceBare lookup type).isUnion = namesUnion lookup type := by
  match type, noUnion with
  | .named name target [] slot, _ =>
      rw [replaceBare, namesUnion]
      cases lookup name <;> rfl
  | .named _ _ (_ :: _) _, _ | .literal _, _ | .tuple _, _ => rfl

/-- Replacing names by flat types keeps a flat type flat unless it nests unions. -/
theorem isFlat_replaceBare_iff
    (flatReplacements : ∀ name replacement,
      lookup name = some replacement → replacement.isFlat)
    {type : TypeExpr}
    (flat : type.isFlat) :
    (replaceBare lookup type).isFlat ↔ staysFlat lookup type := by
  have each (parts : List TypeExpr)
      (hold : ∀ one ∈ parts, one.isFlat →
        ((replaceBare lookup one).isFlat ↔ staysFlat lookup one))
      (partsFlat : ∀ one ∈ parts, one.isFlat) :
      (∀ one ∈ replaceBareAll lookup parts, one.isFlat) ↔
        stayFlat lookup parts := by
    rw [replaceBareAll_eq_map, List.forall_mem_map, stayFlat_iff]
    exact forall₂_congr fun one isPart => hold one isPart (partsFlat one isPart)
  induction type using TypeExpr.partsInduction with
  | named name target arguments slot argumentsHold =>
      cases arguments with
      | nil =>
          refine iff_of_true ?_ rfl
          rw [replaceBare]
          cases isKnown : lookup name with
          | none => exact flat
          | some replacement => exact flatReplacements name replacement isKnown
      | cons first rest =>
          rw [replaceBare, TypeExpr.isFlat_named_iff, staysFlat]
          exact each _ argumentsHold (TypeExpr.isFlat_named_iff.mp flat)
  | literal value => exact iff_of_true rfl rfl
  | union members membersHold =>
      have inMembers := TypeExpr.isFlat_union_iff.mp flat
      rw [replaceBare, TypeExpr.isFlat_union_iff, replaceBareAll_eq_map,
        List.forall_mem_map, staysFlat_union_iff]
      refine forall₂_congr fun one isMember => ?_
      rw [isUnion_replaceBare (inMembers one isMember).1]
      exact and_congr_right fun _ => membersHold one isMember (inMembers one isMember).2
  | tuple elements elementsHold =>
      rw [replaceBare, TypeExpr.isFlat_tuple_iff, staysFlat]
      exact each elements elementsHold (TypeExpr.isFlat_tuple_iff.mp flat)

/-! ## Collected expressions -/

/-- A type expression as it stands, and the alias that stands for it, if any. -/
structure Request where
  raw : Option String
  aliasName : Option String := none
  deriving Repr

/-- The text that is collected for a request. -/
def Request.text (request : Request) : String :=
  match request.raw with
  | some expression => cleanExpression expression
  | none => undefinedType

namespace Pending

/-- What is pending after some requests. -/
def collect (requests : List Request) : Pending :=
  requests.foldl
    (fun pending request => (pending.register request.raw request.aliasName).2)
    .empty

/-- Requests are collected in order, one slot for each. -/
theorem expressions_collect (requests : List Request) :
    (collect requests).expressions = requests.map Request.text := by
  have grows (pending : Pending) :
      (requests.foldl
        (fun pending request => (pending.register request.raw request.aliasName).2)
        pending).expressions = pending.expressions ++ requests.map Request.text := by
    induction requests generalizing pending with
    | nil => exact (List.append_nil _).symm
    | cons first rest inductionHypothesis =>
        refine (inductionHypothesis _).trans ?_
        exact List.append_assoc pending.expressions [first.text]
          (rest.map Request.text)
  exact grows .empty

end Pending

end ApiTree.Resolve
