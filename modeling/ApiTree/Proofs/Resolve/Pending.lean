import ApiTree.Proofs.Decl.Targets
import ApiTree.Resolve.Pending

namespace ApiTree.Resolve

open ApiTree.Decl (Info TypeExpr)

/-!
# Where resolved types come from

Aliases are expanded inside the types that the answers give, and what replaces a
name comes from an answer as well.  So a resolved type has what all answers have and
replacing names preserves: no name in it has a target if none in the answers has one.
-/

/-- That no name in an answer has a target. -/
def UntargetedAnswers (answers : Answers) : Prop :=
  ∀ answer ∈ answers, ∀ type,
    TypeExpr.read answer.2 = .ok type → type.Untargeted

theorem replaceBareAll_eq_map
    (lookup : String → Option TypeExpr)
    (types : List TypeExpr) :
    replaceBareAll lookup types = types.map (replaceBare lookup) := by
  induction types with
  | nil =>
      rfl
  | cons first rest inductionHypothesis =>
      simp [replaceBareAll, inductionHypothesis]

/-- Replacing bare names brings no targets but those of the replacements. -/
theorem untargeted_replaceBare
    {lookup : String → Option TypeExpr}
    (replacements : ∀ name replacement,
      lookup name = some replacement → replacement.Untargeted)
    {type : TypeExpr}
    (untargeted : type.Untargeted) :
    (replaceBare lookup type).Untargeted := by
  have each (parts : List TypeExpr)
      (hold : ∀ one ∈ parts,
        one.Untargeted → (replaceBare lookup one).Untargeted)
      (partsUntargeted : ∀ one ∈ parts, one.Untargeted) :
      ∀ one ∈ replaceBareAll lookup parts, one.Untargeted := by
    rw [replaceBareAll_eq_map]
    intro replaced member
    obtain ⟨one, isPart, rfl⟩ := List.mem_map.mp member
    exact hold one isPart (partsUntargeted one isPart)
  induction type using TypeExpr.partsInduction with
  | named name target arguments slot argumentsHold =>
      cases arguments with
      | nil =>
          rw [replaceBare]
          split
          · rename_i replacement looked
            exact replacements name replacement looked
          · exact untargeted
      | cons first rest =>
          obtain ⟨noTarget, inArguments⟩ :=
            TypeExpr.untargeted_named_iff.mp untargeted
          rw [replaceBare]
          exact TypeExpr.untargeted_named_iff.mpr
            ⟨noTarget, each _ argumentsHold inArguments⟩
  | literal value =>
      exact untargeted
  | union members membersHold =>
      exact TypeExpr.untargeted_union_iff.mpr
        (each _ membersHold (TypeExpr.untargeted_union_iff.mp untargeted))
  | tuple elements elementsHold =>
      exact TypeExpr.untargeted_tuple_iff.mpr
        (each _ elementsHold (TypeExpr.untargeted_tuple_iff.mp untargeted))

/-- What replacing bare names preserves is preserved where aliases are followed. -/
theorem expandAliases_preserves
    {holds : TypeExpr → Prop}
    (replaced : ∀ {lookup : String → Option TypeExpr},
      (∀ name replacement, lookup name = some replacement → holds replacement) →
        ∀ {type : TypeExpr}, holds type → holds (replaceBare lookup type))
    {lookup : String → Option TypeExpr}
    (replacements : ∀ name replacement,
      lookup name = some replacement → holds replacement)
    (steps : Nat)
    {type : TypeExpr}
    (own : holds type) :
    holds (expandAliases lookup steps type) := by
  induction steps generalizing type with
  | zero =>
      exact own
  | succ steps inductionHypothesis =>
      refine replaced ?_ own
      intro name replacement expanded
      obtain ⟨found, looked, rfl⟩ := Option.map_eq_some_iff.mp expanded
      exact inductionHypothesis (replacements name found looked)

namespace Pending

/-- What is decoded is the type that some answer gives. -/
theorem exists_answer_of_lookup
    {answers : Answers}
    {expression : String}
    {type : TypeExpr}
    (looked : (decodeAnswers answers).lookup expression = some type) :
    ∃ answer ∈ answers, TypeExpr.read answer.2 = .ok type := by
  obtain ⟨before, after, shape, -⟩ := List.lookup_eq_some_iff.mp looked
  have member : (expression, type) ∈ decodeAnswers answers := by
    rw [shape]
    simp
  obtain ⟨answer, isAnswer, decoded⟩ := List.mem_filterMap.mp member
  split at decoded
  · rename_i understood readOk
    cases decoded
    exact ⟨answer, isAnswer, readOk⟩
  · cases decoded

/-- The decoded type that the expression of a slot is resolved from, if there is one. -/
def descriptor?
    (pending : Pending)
    (decoded : List (String × TypeExpr))
    (slot : Nat) :
    Option TypeExpr :=
  pending.expressions[slot]?.bind fun expression =>
    pending.aliasType? decoded expression <|> decoded.lookup expression

/-- The type of a slot is expanded from its decoded type. -/
theorem get?_resolve
    (pending : Pending)
    (answers : Answers)
    (slot : Nat) :
    (pending.resolve answers).get? slot =
      (pending.descriptor? (decodeAnswers answers) slot).map
        (expandAliases (pending.aliasType? (decodeAnswers answers)) aliasLimit) := by
  rw [Resolved.get?, resolve, List.getElem?_map, descriptor?]
  cases pending.expressions[slot]? <;> rfl

/-- What a slot is resolved from is the decoded answer to some expression. -/
theorem exists_lookup_of_descriptor?
    {pending : Pending}
    {decoded : List (String × TypeExpr)}
    {slot : Nat}
    {descriptor : TypeExpr}
    (isDescriptor : pending.descriptor? decoded slot = some descriptor) :
    ∃ expression, decoded.lookup expression = some descriptor := by
  obtain ⟨expression, -, isFound⟩ := Option.bind_eq_some_iff.mp isDescriptor
  rw [Option.orElse_eq_orElse, Option.orElse_eq_or, Option.or_eq_some_iff] at isFound
  rcases isFound with aliased | ⟨-, own⟩
  · obtain ⟨text, -, isType⟩ := Option.bind_eq_some_iff.mp aliased
    exact ⟨text, isType⟩
  · exact ⟨expression, own⟩

/-- A resolved type has what all answers have and replacing bare names preserves. -/
theorem holds_of_get?_resolve
    {holds : TypeExpr → Prop}
    (replaced : ∀ {lookup : String → Option TypeExpr},
      (∀ name replacement, lookup name = some replacement → holds replacement) →
        ∀ {type : TypeExpr}, holds type → holds (replaceBare lookup type))
    {answers : Answers}
    (answered : ∀ answer ∈ answers, ∀ type,
      TypeExpr.read answer.2 = .ok type → holds type)
    {pending : Pending}
    {slot : Nat}
    {type : TypeExpr}
    (resolved : (pending.resolve answers).get? slot = some type) :
    holds type := by
  have decoded (expression : String) (found : TypeExpr)
      (looked : (decodeAnswers answers).lookup expression = some found) :
      holds found := by
    obtain ⟨answer, isAnswer, readOk⟩ := exists_answer_of_lookup looked
    exact answered answer isAnswer found readOk
  rw [get?_resolve] at resolved
  obtain ⟨descriptor, isDescriptor, rfl⟩ := Option.map_eq_some_iff.mp resolved
  obtain ⟨expression, looked⟩ := exists_lookup_of_descriptor? isDescriptor
  refine expandAliases_preserves replaced ?_ aliasLimit
    (decoded expression descriptor looked)
  intro name replacement isAlias
  obtain ⟨text, -, isMeaning⟩ := Option.bind_eq_some_iff.mp isAlias
  exact decoded text replacement isMeaning

/-- No name in a resolved type has a target if none in the answers has. -/
theorem untargeted_of_get?_resolve
    {answers : Answers}
    (untargeted : UntargetedAnswers answers)
    (pending : Pending)
    {slot : Nat}
    {type : TypeExpr}
    (resolved : (pending.resolve answers).get? slot = some type) :
    type.Untargeted :=
  holds_of_get?_resolve untargeted_replaceBare untargeted resolved

end Pending

namespace Resolved

/-- A type without targets is resolved to one without targets. -/
theorem untargetedType_applyInfo
    {resolved : Resolved}
    (untargeted : ∀ slot type,
      resolved.get? slot = some type → type.Untargeted)
    {info : Info}
    (untargetedType : info.UntargetedType) :
    (resolved.applyInfo info).UntargetedType := by
  rw [applyInfo]
  split
  · rename_i replacement isReplaced
    rintro type ⟨⟩
    obtain ⟨slot, -, got⟩ := Option.bind_eq_some_iff.mp isReplaced
    exact untargeted slot replacement got
  · exact untargetedType

end Resolved

end ApiTree.Resolve
