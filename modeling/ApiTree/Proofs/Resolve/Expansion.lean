import ApiTree.Proofs.Resolve.Aliases

namespace ApiTree.Resolve

open ApiTree.Decl (DeclId TypeExpr)
open ApiTree.Json (Value)

/-!
# Expanding aliases within a bound

Expansion goes into what an alias stands for with one step less, and into the parts of a
type with as many steps.  So it ends for every table, one in which aliases go round in
circles included.  A name that is still an alias is left exactly where following aliases
from the type takes more steps than there are.
-/

variable
    {lookup : String → Option TypeExpr}

/-! ## Expansion by rules -/

mutual

/--
Expanding a type at a depth, by rules: a bare name that stands for a type is followed one
level deeper, while the depth allows it, and the parts of a type are expanded at its own
depth.
-/
inductive Expands (lookup : String → Option TypeExpr) :
    Nat → TypeExpr → TypeExpr → Prop where
  | followed
      {depth : Nat}
      {name : String}
      {target : Option DeclId}
      {slot : Option Nat}
      {replacement result : TypeExpr}
      (within : depth ≤ aliasLimit)
      (stands : lookup name = some replacement)
      (expands : Expands lookup (depth + 1) replacement result) :
      Expands lookup depth (.named name target [] slot) result
  | kept
      {depth : Nat}
      {name : String}
      {target : Option DeclId}
      {slot : Option Nat}
      (stays : aliasLimit < depth ∨ lookup name = none) :
      Expands lookup depth (.named name target [] slot) (.named name target [] slot)
  | applied
      {depth : Nat}
      {name : String}
      {target : Option DeclId}
      {arguments results : List TypeExpr}
      {slot : Option Nat}
      (isApplied : arguments ≠ [])
      (each : ExpandsEach lookup depth arguments results) :
      Expands lookup depth (.named name target arguments slot)
        (.named name target results slot)
  | literal
      {depth : Nat}
      {value : Value} :
      Expands lookup depth (.literal value) (.literal value)
  | union
      {depth : Nat}
      {members results : List TypeExpr}
      (each : ExpandsEach lookup depth members results) :
      Expands lookup depth (.union members) (.union results)
  | tuple
      {depth : Nat}
      {elements results : List TypeExpr}
      (each : ExpandsEach lookup depth elements results) :
      Expands lookup depth (.tuple elements) (.tuple results)

/-- Expanding each of several types at a depth. -/
inductive ExpandsEach (lookup : String → Option TypeExpr) :
    Nat → List TypeExpr → List TypeExpr → Prop where
  | nil
      {depth : Nat} :
      ExpandsEach lookup depth [] []
  | cons
      {depth : Nat}
      {first result : TypeExpr}
      {rest results : List TypeExpr}
      (expands : Expands lookup depth first result)
      (each : ExpandsEach lookup depth rest results) :
      ExpandsEach lookup depth (first :: rest) (result :: results)

end

theorem expandAliases_applied
    (steps : Nat)
    {name : String}
    {target : Option DeclId}
    {arguments : List TypeExpr}
    {slot : Option Nat}
    (isApplied : arguments ≠ []) :
    expandAliases lookup steps (.named name target arguments slot) =
      .named name target (arguments.map (expandAliases lookup steps)) slot := by
  cases arguments with
  | nil => exact absurd rfl isApplied
  | cons first rest =>
      cases steps with
      | zero => simp [expandAliases]
      | succ steps => rw [expandAliases, replaceBare, replaceBareAll_eq_map]

theorem expandAliases_literal
    (steps : Nat)
    (value : Value) :
    expandAliases lookup steps (.literal value) = .literal value := by
  cases steps <;> rfl

theorem expandAliases_union
    (steps : Nat)
    (members : List TypeExpr) :
    expandAliases lookup steps (.union members) =
      .union (members.map (expandAliases lookup steps)) := by
  cases steps with
  | zero => simp [expandAliases]
  | succ steps => rw [expandAliases, replaceBare, replaceBareAll_eq_map]

theorem expandAliases_tuple
    (steps : Nat)
    (elements : List TypeExpr) :
    expandAliases lookup steps (.tuple elements) =
      .tuple (elements.map (expandAliases lookup steps)) := by
  cases steps with
  | zero => simp [expandAliases]
  | succ steps => rw [expandAliases, replaceBare, replaceBareAll_eq_map]

theorem expandAliases_bare
    {name : String}
    {replacement : TypeExpr}
    (stands : lookup name = some replacement)
    (steps : Nat)
    (target : Option DeclId)
    (slot : Option Nat) :
    expandAliases lookup (steps + 1) (.named name target [] slot) =
      expandAliases lookup steps replacement := by
  rw [expandAliases, replaceBare, stands]
  rfl

/-- A bare name stays if it stands for nothing or no step is left. -/
theorem expandAliases_bare_eq_self
    {name : String}
    {steps : Nat}
    (stays : steps = 0 ∨ lookup name = none)
    (target : Option DeclId)
    (slot : Option Nat) :
    expandAliases lookup steps (.named name target [] slot) =
      .named name target [] slot := by
  cases steps with
  | zero => rfl
  | succ steps =>
      rw [expandAliases, replaceBare, stays.resolve_left (Nat.succ_ne_zero steps)]
      rfl

/-- Types expand to what each of them expands to. -/
theorem expandsEach_iff
    {depth : Nat}
    {expand : TypeExpr → TypeExpr}
    {types results : List TypeExpr}
    (hold : ∀ type ∈ types, ∀ result,
      Expands lookup depth type result ↔ result = expand type) :
    ExpandsEach lookup depth types results ↔ results = types.map expand := by
  induction types generalizing results with
  | nil =>
      constructor
      · rintro ⟨⟩
        rfl
      · rintro rfl
        exact .nil
  | cons first rest inductionHypothesis =>
      obtain ⟨firstHolds, restHolds⟩ := List.forall_mem_cons.mp hold
      constructor
      · rintro (_ | ⟨expands, each⟩)
        rw [List.map_cons, (firstHolds _).mp expands,
          (inductionHypothesis restHolds).mp each]
      · rintro rfl
        exact .cons ((firstHolds _).mpr rfl) ((inductionHypothesis restHolds).mpr rfl)

/--
The rules give every type one expansion at a depth if they do one level deeper.  The
induction is on the type: its parts are smaller, and a name is left to the deeper level.
-/
theorem expands_iff_of_deeper
    {depth steps : Nat}
    (left : steps = aliasLimit + 1 - depth)
    (deeper : ∀ fewer, steps = fewer + 1 → ∀ type result,
      Expands lookup (depth + 1) type result ↔ result = expandAliases lookup fewer type)
    (type result : TypeExpr) :
    Expands lookup depth type result ↔ result = expandAliases lookup steps type := by
  induction type using TypeExpr.partsInduction generalizing result with
  | named name target arguments slot argumentsHold =>
      by_cases isBare : arguments = []
      · subst isBare
        constructor
        · rintro (⟨within, stands, expands⟩ | ⟨stays⟩ | ⟨isApplied, -⟩)
          · obtain ⟨fewer, rfl⟩ : ∃ fewer, steps = fewer + 1 := ⟨aliasLimit - depth, by omega⟩
            rw [expandAliases_bare stands]
            exact (deeper fewer rfl _ _).mp expands
          · exact (expandAliases_bare_eq_self (stays.imp_left (by omega)) target slot).symm
          · exact absurd rfl isApplied
        · rintro rfl
          by_cases stays : steps = 0 ∨ lookup name = none
          · rw [expandAliases_bare_eq_self stays]
            exact .kept (stays.imp_left (by omega))
          · obtain ⟨hasSteps, isAlias⟩ := not_or.mp stays
            obtain ⟨fewer, rfl⟩ := Nat.exists_eq_succ_of_ne_zero hasSteps
            obtain ⟨replacement, stands⟩ := Option.ne_none_iff_exists'.mp isAlias
            rw [expandAliases_bare stands]
            exact .followed (by omega) stands ((deeper fewer rfl _ _).mpr rfl)
      · rw [expandAliases_applied steps isBare]
        constructor
        · rintro (_ | _ | ⟨-, each⟩)
          · exact absurd rfl isBare
          · exact absurd rfl isBare
          · rw [(expandsEach_iff argumentsHold).mp each]
        · rintro rfl
          exact .applied isBare ((expandsEach_iff argumentsHold).mpr rfl)
  | literal value =>
      rw [expandAliases_literal]
      constructor
      · rintro ⟨⟩
        rfl
      · rintro rfl
        exact .literal
  | union members membersHold =>
      rw [expandAliases_union]
      constructor
      · intro expands
        cases expands with
        | union each => rw [(expandsEach_iff membersHold).mp each]
      · rintro rfl
        exact .union ((expandsEach_iff membersHold).mpr rfl)
  | tuple elements elementsHold =>
      rw [expandAliases_tuple]
      constructor
      · intro expands
        cases expands with
        | tuple each => rw [(expandsEach_iff elementsHold).mp each]
      · rintro rfl
        exact .tuple ((expandsEach_iff elementsHold).mpr rfl)

/--
The rules give every type one expansion at every depth: the one that is computed with
the steps that the depth leaves.
-/
theorem expands_iff
    {depth steps : Nat}
    (left : steps = aliasLimit + 1 - depth)
    (type result : TypeExpr) :
    Expands lookup depth type result ↔ result = expandAliases lookup steps type := by
  induction steps generalizing depth type result with
  | zero =>
      refine expands_iff_of_deeper left (fun fewer isMore => ?_) type result
      exact absurd isMore.symm (Nat.succ_ne_zero fewer)
  | succ steps inductionHypothesis =>
      refine expands_iff_of_deeper left (fun fewer isMore => ?_) type result
      obtain rfl : steps = fewer := Nat.succ.inj isMore
      exact inductionHypothesis (by omega)

/-! ## Chains of aliases -/

/--
Aliases that are followed one after another from a type: the first stands bare in the
type, and each of the others in what the one before it stands for.
-/
inductive AliasChain (lookup : String → Option TypeExpr) :
    TypeExpr → List String → Prop where
  | nil
      {type : TypeExpr} :
      AliasChain lookup type []
  | cons
      {type replacement : TypeExpr}
      {name : String}
      {rest : List String}
      (isBare : name ∈ bareNames type)
      (stands : lookup name = some replacement)
      (chain : AliasChain lookup replacement rest) :
      AliasChain lookup type (name :: rest)

/-- Whether all aliases in a type come to an end within a number of steps. -/
def aliasesEnd (lookup : String → Option TypeExpr) : Nat → TypeExpr → Bool
  | 0, type => (bareNames type).all fun name => (lookup name).isNone
  | steps + 1, type =>
      (bareNames type).all fun name => (lookup name).all (aliasesEnd lookup steps)

theorem aliasesEnd_zero_iff {type : TypeExpr} :
    aliasesEnd lookup 0 type ↔ ∀ name ∈ bareNames type, lookup name = none := by
  simp only [aliasesEnd, List.all_eq_true, Option.isNone_iff_eq_none]

theorem aliasesEnd_succ_iff
    {steps : Nat}
    {type : TypeExpr} :
    aliasesEnd lookup (steps + 1) type ↔
      ∀ name ∈ bareNames type, ∀ replacement, lookup name = some replacement →
        aliasesEnd lookup steps replacement := by
  simp only [aliasesEnd, List.all_eq_true, Option.all_eq_true]

/-- Aliases come to an end within a number of steps if no chain of them is longer. -/
theorem aliasesEnd_iff_length_le
    {steps : Nat}
    {type : TypeExpr} :
    aliasesEnd lookup steps type ↔
      ∀ chain, AliasChain lookup type chain → chain.length ≤ steps := by
  induction steps generalizing type with
  | zero =>
      rw [aliasesEnd_zero_iff]
      constructor
      · rintro noAlias chain (_ | ⟨isBare, stands, -⟩)
        · exact Nat.le_refl _
        · rw [noAlias _ isBare] at stands
          cases stands
      · intro short name isBare
        cases isAlias : lookup name with
        | none => rfl
        | some replacement =>
            exact absurd (short [name] (.cons isBare isAlias .nil)) (by simp)
  | succ steps inductionHypothesis =>
      rw [aliasesEnd_succ_iff]
      constructor
      · rintro ends chain (_ | ⟨isBare, stands, rest⟩)
        · exact Nat.zero_le _
        · exact Nat.succ_le_succ
            (inductionHypothesis.mp (ends _ isBare _ stands) _ rest)
      · intro short name isBare replacement stands
        refine inductionHypothesis.mpr fun rest chain => ?_
        exact Nat.le_of_succ_le_succ (short (name :: rest) (.cons isBare stands chain))

/-- The bare names that are left are those of the replacements and those without one. -/
theorem bareNames_replaceBare (type : TypeExpr) :
    bareNames (replaceBare lookup type) =
      (bareNames type).flatMap fun name => (lookup name).elim [name] bareNames := by
  have each (parts : List TypeExpr)
      (hold : ∀ one ∈ parts, bareNames (replaceBare lookup one) =
        (bareNames one).flatMap fun name => (lookup name).elim [name] bareNames) :
      bareNamesOfAll (replaceBareAll lookup parts) =
        (bareNamesOfAll parts).flatMap fun name =>
          (lookup name).elim [name] bareNames := by
    rw [replaceBareAll_eq_map, bareNamesOfAll_eq_flatMap, bareNamesOfAll_eq_flatMap,
      List.flatMap_map, List.flatMap_assoc, List.flatMap_congr hold]
  induction type using TypeExpr.partsInduction with
  | named name target arguments slot argumentsHold =>
      cases arguments with
      | nil =>
          rw [replaceBare, bareNames, List.flatMap_singleton]
          cases lookup name <;> rfl
      | cons first rest => exact each _ argumentsHold
  | literal value => rfl
  | union members membersHold => exact each members membersHold
  | tuple elements elementsHold => exact each elements elementsHold

/-- Expansion leaves no alias if all aliases come to an end within its steps. -/
theorem aliasesEnd_iff_expanded
    {steps : Nat}
    {type : TypeExpr} :
    aliasesEnd lookup steps type ↔
      ∀ name ∈ bareNames (expandAliases lookup steps type), lookup name = none := by
  induction steps generalizing type with
  | zero =>
      exact aliasesEnd_zero_iff
  | succ steps inductionHypothesis =>
      -- A name that is left comes from an expanded alias or is no alias itself.
      rw [aliasesEnd_succ_iff, expandAliases, bareNames_replaceBare]
      simp only [List.mem_flatMap, forall_exists_index, and_imp]
      constructor
      · intro ends left name isBare isLeft
        cases isAlias : lookup name with
        | none =>
            rw [isAlias] at isLeft
            rw [List.mem_singleton.mp isLeft, isAlias]
        | some replacement =>
            rw [isAlias] at isLeft
            exact inductionHypothesis.mp (ends name isBare replacement isAlias) left isLeft
      · intro noAlias name isBare replacement isAlias
        refine inductionHypothesis.mpr fun left isLeft => noAlias left name isBare ?_
        rw [isAlias]
        exact isLeft

/-! ## Resolved slots -/

namespace Pending

/--
Expansion ends for every table of aliases: the rules give every type one expansion at
every depth, and a slot that has a decoded type gets the expansion of it.  A resolved type
mentions no alias exactly if at most eight aliases can be followed one after another from
the decoded type of its slot.  So no resolved type mentions one if this holds of every
decoded type.
-/
theorem aliases_expand_within_limit
    (pending : Pending)
    (answers : Answers) :
    let decoded := decodeAnswers answers
    let lookup := pending.aliasType? decoded
    (∀ depth type, ∃! result, Expands lookup depth type result) ∧
      (∀ slot descriptor, pending.descriptor? decoded slot = some descriptor →
        ∃ type, (pending.resolve answers).get? slot = some type ∧
          Expands lookup 1 descriptor type ∧
          ((∀ name ∈ bareNames type, lookup name = none) ↔
            ∀ chain, AliasChain lookup descriptor chain → chain.length ≤ 8)) ∧
      ((∀ expression descriptor, decoded.lookup expression = some descriptor →
          ∀ chain, AliasChain lookup descriptor chain → chain.length ≤ 8) →
        ∀ slot type, (pending.resolve answers).get? slot = some type →
          ∀ name ∈ bareNames type, lookup name = none) := by
  intro decoded lookup
  have complete (descriptor : TypeExpr) :
      (∀ name ∈ bareNames (expandAliases lookup aliasLimit descriptor),
          lookup name = none) ↔
        ∀ chain, AliasChain lookup descriptor chain → chain.length ≤ 8 :=
    aliasesEnd_iff_expanded.symm.trans aliasesEnd_iff_length_le
  refine ⟨?_, ?_, ?_⟩
  · intro depth type
    refine ⟨_, (expands_iff rfl type _).mpr rfl, fun result expands => ?_⟩
    exact (expands_iff rfl type result).mp expands
  · intro slot descriptor isDescriptor
    refine ⟨expandAliases lookup aliasLimit descriptor, ?_, ?_, complete descriptor⟩
    · rw [get?_resolve, isDescriptor]
      rfl
    · exact (expands_iff rfl descriptor _).mpr rfl
  · intro short slot type isResolved
    rw [get?_resolve] at isResolved
    obtain ⟨descriptor, isDescriptor, rfl⟩ := Option.map_eq_some_iff.mp isResolved
    obtain ⟨expression, isDecoded⟩ := exists_lookup_of_descriptor? isDescriptor
    exact (complete descriptor).mpr (short expression descriptor isDecoded)

/-- Aliases of which each stands for the next, and a list of the first. -/
def rowOfAliases (names : List String) : List Request :=
  List.zipWith (fun name next => { raw := some next, aliasName := some name })
      names (names.tail ++ ["int"]) ++
    [{ raw := some "list[A]" }]

/-- Answers that give every name as it is. -/
def rowAnswers (names : List String) : Answers :=
  ("list[A]", (TypeExpr.named "list" none [.ofName "A"] none).json) ::
    (names ++ ["int"]).map fun name => (name, (TypeExpr.ofName name).json)

/--
In a row of eight aliases no alias is left of the list of the first.  In a row of nine one
is left.
-/
theorem aliases_expand_within_limit_of_row :
    let eight := ["A", "B", "C", "D", "E", "F", "G", "H"]
    let nine := eight ++ ["I"]
    let lookup (names : List String) (name : String) :=
      (collect (rowOfAliases names)).aliasType? (decodeAnswers (rowAnswers names)) name
    (∃ type,
      ((collect (rowOfAliases eight)).resolve (rowAnswers eight)).get? 8 = some type ∧
        ∀ name ∈ bareNames type, lookup eight name = none) ∧
      ∃ type,
        ((collect (rowOfAliases nine)).resolve (rowAnswers nine)).get? 9 = some type ∧
          ∃ name ∈ bareNames type, lookup nine name ≠ none := by
  intro eight nine lookup
  have eightEnd : ∀ entry ∈ decodeAnswers (rowAnswers eight),
      aliasesEnd (lookup eight) 8 entry.2 := by
    decide +kernel
  have eightListed :
      ((collect (rowOfAliases eight)).descriptor? (decodeAnswers (rowAnswers eight)) 8).isSome := by
    decide +kernel
  have nineGoOn :
      ((collect (rowOfAliases nine)).descriptor? (decodeAnswers (rowAnswers nine)) 9).any
        fun descriptor => !aliasesEnd (lookup nine) 8 descriptor := by
    decide +kernel
  obtain ⟨-, eightResolved, eightComplete⟩ :=
    aliases_expand_within_limit (collect (rowOfAliases eight)) (rowAnswers eight)
  obtain ⟨-, nineResolved, -⟩ :=
    aliases_expand_within_limit (collect (rowOfAliases nine)) (rowAnswers nine)
  constructor
  · obtain ⟨descriptor, isDescriptor⟩ := Option.isSome_iff_exists.mp eightListed
    obtain ⟨type, isType, -⟩ := eightResolved 8 descriptor isDescriptor
    refine ⟨type, isType, eightComplete ?_ 8 type isType⟩
    intro expression decoded isDecoded
    obtain ⟨before, after, shape, -⟩ := List.lookup_eq_some_iff.mp isDecoded
    exact aliasesEnd_iff_length_le.mp (eightEnd (expression, decoded) (by simp [shape]))
  · obtain ⟨descriptor, isDescriptor, goesOn⟩ := (Option.any_eq_true _ _).mp nineGoOn
    obtain ⟨type, isType, -, noneLeft⟩ := nineResolved 9 descriptor isDescriptor
    refine ⟨type, isType, ?_⟩
    by_contra noAlias
    push Not at noAlias
    have ends := aliasesEnd_iff_length_le.mpr (noneLeft.mp noAlias)
    rw [ends] at goesOn
    cases goesOn

end Pending

end ApiTree.Resolve
