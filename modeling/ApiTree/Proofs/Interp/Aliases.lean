import ApiTree.Proofs.Hint.WritingOut
import ApiTree.Proofs.Interp.Batch
import ApiTree.Proofs.Resolve.Aliases

namespace ApiTree.Interp

open ApiTree.Decl (TypeExpr)
open ApiTree.Hint (Descriptor Expr Understood WrittenOut descriptorOf describe)
open ApiTree.Hint.Interpreter (callLimit)
open ApiTree.Json (Value)
open ApiTree.Resolve (Answers Pending Request bareNames expandAliases replaceBare
  staysFlat)

/-!
# Aliases and what they stand for

An expression that uses aliases is resolved to the type of the expression in which what
they stand for is written out, except that a union in the place of a member of a union
stays a union of its own.
-/

/-! ## Understood texts -/

/-- The expression that a text spells, if it is one. -/
def exprOf? (text : String) : Option Expr :=
  (Hint.parsePoints callLimit (Hint.pointsOf text)).toOption

theorem descriptorOf_eq
    {text : String}
    {expr : Expr}
    (spells : exprOf? text = some expr) :
    descriptorOf text = describe callLimit expr := by
  rw [descriptorOf, eq_ok_iff_toOption.mpr spells]
  rfl

/-- A text with a descriptor spells an expression with that descriptor. -/
theorem exists_expr_of_descriptorOf
    {text : String}
    {descriptor : Descriptor}
    (described : descriptorOf text = .ok descriptor) :
    ∃ expr, exprOf? text = some expr ∧
      describe callLimit expr = .ok descriptor := by
  obtain ⟨expr, spells, described⟩ := Hint.bind_eq_ok_iff.mp described
  exact ⟨expr, eq_ok_iff_toOption.mp spells, described⟩

/-- Whether two expressions of names, operators and brackets are the same. -/
def sameNames : Expr → Expr → Bool
  | .name first, .name second => first == second
  | .binary op left right, .binary otherOp otherLeft otherRight =>
      op == otherOp && sameNames left otherLeft && sameNames right otherRight
  | .subscript value index, .subscript otherValue otherIndex =>
      sameNames value otherValue && sameNames index otherIndex
  | _, _ => false

theorem eq_of_sameNames
    {expr found : Expr}
    (same : sameNames expr found) :
    expr = found := by
  fun_induction sameNames expr found with
  | case1 first second => rw [eq_of_beq same]
  | case2 op left right otherOp otherLeft otherRight leftSame rightSame =>
      rw [Bool.and_eq_true, Bool.and_eq_true] at same
      rw [eq_of_beq same.1.1, leftSame same.1.2, rightSame same.2]
  | case3 value index otherValue otherIndex valueSame indexSame =>
      rw [Bool.and_eq_true] at same
      rw [valueSame same.1, indexSame same.2]
  | case4 => cases same

theorem exprOf?_eq
    {text : String}
    {expr : Expr}
    (spells : (exprOf? text).any (sameNames expr) = true) :
    exprOf? text = some expr := by
  cases isFound : exprOf? text with
  | none =>
      rw [isFound] at spells
      cases spells
  | some found =>
      rw [isFound] at spells
      rw [eq_of_sameNames spells]

/-- An answer is the type of the descriptor that the text has. -/
theorem exists_descriptor_of_answer
    {texts : List String}
    {answers : Answers}
    (answered : evaluator texts = .ok answers)
    {text : String}
    {value : Value}
    (found : answers.lookup text = some value) :
    ∃ descriptor, descriptorOf text = .ok descriptor ∧
      TypeExpr.read value = .ok descriptor.type := by
  cases evaluated texts with
  | failed error fails =>
      rw [fails] at answered
      cases answered
  | answered others ok lookup_eq =>
      obtain rfl : answers = others := Except.ok.inj (answered.symm.trans ok)
      rw [lookup_eq] at found
      split at found
      · obtain ⟨descriptor, described, answer⟩ := Option.bind_eq_some_iff.mp found
        obtain ⟨_, -, read⟩ := Option.bind_eq_some_iff.mp answer
        exact ⟨descriptor, eq_ok_iff_toOption.mpr described,
          descriptor.readAt_of_valueAt false (by decide) read⟩
      · cases found

/-- An answer that is a type is decoded to it. -/
theorem lookup_decodeAnswers
    {answers : Answers}
    {text : String}
    {value : Value}
    {type : TypeExpr}
    (found : answers.lookup text = some value)
    (read : TypeExpr.read value = .ok type) :
    (Pending.decodeAnswers answers).lookup text = some type := by
  obtain ⟨front, back, rfl, others⟩ := List.lookup_eq_some_iff.mp found
  have absent : (Pending.decodeAnswers front).lookup text = none := by
    rw [List.lookup_eq_none_iff]
    intro decoded isDecoded
    obtain ⟨answer, isAnswer, same⟩ := List.mem_filterMap.mp isDecoded
    split at same
    · cases same
      exact others answer isAnswer
    · cases same
  have splits : Pending.decodeAnswers (front ++ (text, value) :: back) =
      Pending.decodeAnswers front ++ (text, type) :: Pending.decodeAnswers back := by
    rw [Pending.decodeAnswers, List.filterMap_append, List.filterMap_cons_some]
    · rfl
    · rw [read]
  rw [splits, List.lookup_append, absent, Option.none_or, List.lookup_cons_self]

/-! ## Aliases -/

section Aliases

variable
    {pending : Pending}
    {answers : Answers}

/-- The expression that an alias stands for. -/
def meaning?
    (pending : Pending)
    (name : String) :
    Option Expr :=
  (pending.aliases.lookup name).bind exprOf?

/-- The type that an alias stands for, given the answers to a batch. -/
def aliasType?
    (pending : Pending)
    (answers : Answers)
    (name : String) :
    Option TypeExpr :=
  pending.aliasType? (Pending.decodeAnswers answers) name

/--
That aliases are names, spelled as they are read, whose expressions are all answered
and mention no alias.
-/
structure PlainAliases
    (pending : Pending)
    (answers : Answers) :
    Prop where
  named : ∀ name text, pending.aliases.lookup name = some text →
    exprOf? name = some (.name name)
  answered : ∀ name text, pending.aliases.lookup name = some text →
    (answers.lookup text).isSome
  aliasFree : ∀ name text descriptor, pending.aliases.lookup name = some text →
    descriptorOf text = .ok descriptor →
      ∀ other ∈ bareNames descriptor.type, pending.isAlias other = false

/-- What an alias stands for, as an expression and as a type. -/
structure StandsFor
    (pending : Pending)
    (answers : Answers)
    (name : String)
    (descriptor : Descriptor) :
    Prop where
  meaning_eq : ∃ expr, meaning? pending name = some expr ∧
    describe callLimit expr = .ok descriptor
  type_eq : aliasType? pending answers name = some descriptor.type
  aliasFree : ∀ other ∈ bareNames descriptor.type,
    aliasType? pending answers other = none

theorem aliasType?_of_not_alias
    {name : String}
    (own : pending.aliases.lookup name = none) :
    aliasType? pending answers name = none := by
  rw [aliasType?, Pending.aliasType?, own]
  rfl

/-- Every alias stands for an expression and its type. -/
theorem exists_standsFor
    {texts : List String}
    (answered : evaluator texts = .ok answers)
    (plain : PlainAliases pending answers)
    {name text : String}
    (isAlias : pending.aliases.lookup name = some text) :
    ∃ descriptor, StandsFor pending answers name descriptor := by
  obtain ⟨value, found⟩ :=
    Option.isSome_iff_exists.mp (plain.answered name text isAlias)
  obtain ⟨descriptor, described, read⟩ := exists_descriptor_of_answer answered found
  obtain ⟨expr, spells, formed⟩ := exists_expr_of_descriptorOf described
  refine ⟨descriptor, ⟨expr, ?_, formed⟩, ?_, ?_⟩
  · rw [meaning?, isAlias]
    exact spells
  · rw [aliasType?, Pending.aliasType?, isAlias]
    exact lookup_decodeAnswers found read
  · intro other isOther
    have notAlias := plain.aliasFree name text descriptor isAlias described other isOther
    exact aliasType?_of_not_alias
      (Option.isNone_iff_eq_none.mp (Option.isSome_eq_false_iff.mp notAlias))

/-- What aliases stand for is known as an expression and as its type. -/
theorem understood
    {texts : List String}
    (answered : evaluator texts = .ok answers)
    (plain : PlainAliases pending answers) :
    Understood (meaning? pending) (aliasType? pending answers) where
  own name unknown := by
    cases isAlias : pending.aliases.lookup name with
    | none => exact aliasType?_of_not_alias isAlias
    | some text =>
        obtain ⟨descriptor, stands⟩ := exists_standsFor answered plain isAlias
        obtain ⟨expr, isMeaning, -⟩ := stands.meaning_eq
        rw [unknown] at isMeaning
        cases isMeaning
  stands name expr isMeaning := by
    obtain ⟨text, isAlias, -⟩ := Option.bind_eq_some_iff.mp isMeaning
    obtain ⟨descriptor, stands⟩ := exists_standsFor answered plain isAlias
    obtain ⟨same, isSame, formed⟩ := stands.meaning_eq
    obtain rfl := Option.some.inj (isMeaning.symm.trans isSame)
    exact ⟨callLimit, descriptor, formed, stands.type_eq⟩

/-- A replacement is the type of a descriptor and mentions no alias. -/
theorem exists_descriptor_of_aliasType?
    {texts : List String}
    (answered : evaluator texts = .ok answers)
    (plain : PlainAliases pending answers)
    {name : String}
    {replacement : TypeExpr}
    (replaces : aliasType? pending answers name = some replacement) :
    ∃ descriptor, StandsFor pending answers name descriptor ∧
      replacement = descriptor.type := by
  obtain ⟨text, isAlias, -⟩ := Option.bind_eq_some_iff.mp replaces
  obtain ⟨descriptor, stands⟩ := exists_standsFor answered plain isAlias
  exact ⟨descriptor, stands, Option.some.inj (replaces.symm.trans stands.type_eq)⟩

/-- An ellipsis is no alias. -/
theorem aliasType?_ellipsis (plain : PlainAliases pending answers) :
    aliasType? pending answers "..." = none := by
  cases isAlias : pending.aliases.lookup "..." with
  | none => exact aliasType?_of_not_alias isAlias
  | some text =>
      have noName : (exprOf? "...").bind Expr.fullName? = none := by decide +kernel
      rw [plain.named "..." text isAlias] at noName
      cases noName

/-- A collected expression is resolved to its type with the types of aliases put in. -/
theorem get?_resolve
    {texts : List String}
    (answered : evaluator texts = .ok answers)
    (plain : PlainAliases pending answers)
    {slot : Nat}
    {text : String}
    {expr : Expr}
    {descriptor : Descriptor}
    {value : Value}
    (isSlot : pending.expressions[slot]? = some text)
    (isAnswer : answers.lookup text = some value)
    (spells : exprOf? text = some expr)
    (formed : describe callLimit expr = .ok descriptor)
    (read : TypeExpr.read value = .ok descriptor.type) :
    (pending.resolve answers).get? slot =
      some (replaceBare (aliasType? pending answers) descriptor.type) := by
  have aliasFree (name : String) (replacement : TypeExpr)
      (replaces : aliasType? pending answers name = some replacement) :
      ∀ other ∈ bareNames replacement, aliasType? pending answers other = none := by
    obtain ⟨known, stands, rfl⟩ :=
      exists_descriptor_of_aliasType? answered plain replaces
    exact stands.aliasFree
  have expands (type : TypeExpr) :
      expandAliases (aliasType? pending answers) Resolve.aliasLimit type =
        replaceBare (aliasType? pending answers) type :=
    Resolve.expandAliases_succ aliasFree 7 type
  have decoded := lookup_decodeAnswers isAnswer read
  have slotType : (pending.resolve answers).get? slot =
      (aliasType? pending answers text <|>
        (Pending.decodeAnswers answers).lookup text).map
          (expandAliases (aliasType? pending answers) Resolve.aliasLimit) := by
    rw [Resolve.Resolved.get?, Pending.resolve, List.getElem?_map, isSlot]
    rfl
  rw [slotType]
  cases isAlias : pending.aliases.lookup text with
  | none =>
      rw [aliasType?_of_not_alias isAlias, decoded]
      exact congrArg some (expands descriptor.type)
  | some aliasText =>
      -- The text is an alias by itself, so its own descriptor is its bare name.
      obtain rfl : Expr.name text = expr :=
        Option.some.inj ((plain.named text aliasText isAlias).symm.trans spells)
      obtain ⟨known, stands⟩ := exists_standsFor answered plain isAlias
      cases formed
      rw [stands.type_eq]
      refine congrArg some ?_
      rw [expands, Resolve.replaceBare_eq_self stands.aliasFree, Descriptor.type,
        Descriptor.typesOf, replaceBare, stands.type_eq]

end Aliases

/-! ## An alias of a union -/

theorem bareNames_union
    {descriptor : Descriptor}
    (described : descriptorOf "str | int" = .ok descriptor) :
    bareNames descriptor.type = ["str", "int"] := by
  have names :
      (descriptorOf "str | int").toOption.map (fun found => bareNames found.type) =
        some ["str", "int"] := by
    decide +kernel
  rw [described] at names
  exact Option.some.inj names

theorem plainAliases_of_key
    {pending : Pending}
    {answers : Answers}
    (isKey : pending.aliases = [("Key", "str | int")])
    (answered : (answers.lookup "str | int").isSome) :
    PlainAliases pending answers := by
  have only (name text : String)
      (isAlias : pending.aliases.lookup name = some text) :
      name = "Key" ∧ text = "str | int" := by
    rw [isKey, Json.lookup_cons_eq] at isAlias
    split at isAlias
    · rename_i same
      exact ⟨same, (Option.some.inj isAlias).symm⟩
    · cases isAlias
  constructor
  · intro name text isAlias
    obtain ⟨rfl, -⟩ := only name text isAlias
    exact exprOf?_eq (by decide +kernel)
  · intro name text isAlias
    obtain ⟨-, rfl⟩ := only name text isAlias
    exact answered
  · intro name text descriptor isAlias described other isOther
    obtain ⟨-, rfl⟩ := only name text isAlias
    rw [bareNames_union described] at isOther
    rw [Pending.isAlias, isKey]
    rcases List.mem_pair.mp isOther with rfl | rfl <;> rfl

/-- An alias of a union, used as the argument of a list. -/
def listOfKeys : List Request :=
  [ { raw := some "str | int", aliasName := some "Key" },
    { raw := some "list[Key]" } ]

/-- The union that the alias stands for. -/
def keyExpr : Expr :=
  .binary .bitOr (.name "str") (.name "int")

/-- An alias of a union, used as a member of a union. -/
def optionalKey : List Request :=
  [ { raw := some "str | int", aliasName := some "Key" },
    { raw := some "Key | None" } ]

/-! ## Written out aliases -/

/--
An expression that uses aliases is resolved to the type of the expression in which what
they stand for is written out, after flattening.  The two are the same, and the former
is flat like the latter, if and only if no member of a union in the expression is an
alias that stands for a union.
-/
theorem aliases_are_written_out
    {requests : List Request}
    {answers : Answers}
    (answered : evaluator (Pending.collect requests).batch = .ok answers)
    (plain : PlainAliases (Pending.collect requests) answers)
    {slot : Nat}
    {request : Request}
    (isRequest : requests[slot]? = some request)
    {given : Value}
    (isGiven : answers.lookup request.text = some given)
    {expr out : Expr}
    (spells : exprOf? request.text = some expr)
    (writtenOut : WrittenOut (meaning? (Pending.collect requests)) expr out)
    {outText : String}
    (outSpells : exprOf? outText = some out)
    {alone : Answers}
    (outAnswered : evaluator [outText] = .ok alone)
    {outGiven : Value}
    (isOutGiven : alone.lookup outText = some outGiven) :
    ∃ bare resolved outType,
      TypeExpr.read given = .ok bare ∧
        TypeExpr.read outGiven = .ok outType ∧
        ((Pending.collect requests).resolve answers).get? slot = some resolved ∧
        resolved.flatten = outType ∧
        outType.isFlat ∧
        (resolved = outType ↔
          staysFlat (aliasType? (Pending.collect requests) answers) bare) ∧
        (resolved.isFlat ↔
          staysFlat (aliasType? (Pending.collect requests) answers) bare) := by
  obtain ⟨descriptor, described, read⟩ := exists_descriptor_of_answer answered isGiven
  obtain ⟨outDescriptor, outDescribed, outRead⟩ :=
    exists_descriptor_of_answer outAnswered isOutGiven
  obtain ⟨same, isSame, formed⟩ := exists_expr_of_descriptorOf described
  obtain rfl := Option.some.inj (spells.symm.trans isSame)
  obtain ⟨sameOut, isSameOut, outFormed⟩ := exists_expr_of_descriptorOf outDescribed
  obtain rfl := Option.some.inj (outSpells.symm.trans isSameOut)
  have isSlot : (Pending.collect requests).expressions[slot]? = some request.text := by
    rw [Pending.expressions_collect, List.getElem?_map, isRequest]
    rfl
  have flatReplacements (name : String) (replacement : TypeExpr)
      (replaces : aliasType? (Pending.collect requests) answers name =
        some replacement) :
      replacement.isFlat := by
    obtain ⟨known, stands, rfl⟩ :=
      exists_descriptor_of_aliasType? answered plain replaces
    obtain ⟨_, -, isKnown⟩ := stands.meaning_eq
    exact Hint.isFlat_of_describe isKnown
  have flattens : (replaceBare (aliasType? (Pending.collect requests) answers)
      descriptor.type).flatten = outDescriptor.type :=
    (Hint.commutes (understood answered plain) (aliasType?_ellipsis plain)
      callLimit writtenOut formed outFormed).symm
  have flat := Resolve.isFlat_replaceBare_iff flatReplacements
    (Hint.isFlat_of_describe formed)
  refine ⟨descriptor.type, _, outDescriptor.type, read, outRead,
    get?_resolve answered plain isSlot isGiven spells formed read, flattens,
    Hint.isFlat_of_describe outFormed, ?_, flat⟩
  rw [← flattens, TypeExpr.eq_flatten_iff]
  exact flat

/-- A list of an alias is resolved to the list of what the alias stands for. -/
theorem aliases_are_written_out_in_list :
    ∃ answers alone outGiven resolved,
      evaluator (Pending.collect listOfKeys).batch = .ok answers ∧
        evaluator ["list[(str | int)]"] = .ok alone ∧
        alone.lookup "list[(str | int)]" = some outGiven ∧
        ((Pending.collect listOfKeys).resolve answers).get? 1 = some resolved ∧
        TypeExpr.read outGiven = .ok resolved := by
  have isKey : (Pending.collect listOfKeys).aliases = [("Key", "str | int")] := by
    decide +kernel
  have isBatch : (Pending.collect listOfKeys).batch = ["str | int", "list[Key]"] := by
    decide +kernel
  have isText : Request.text { raw := some "list[Key]" } = "list[Key]" := by
    decide +kernel
  have each : ∀ text ∈ ["str | int", "list[Key]"], (answerTo? text).isSome := by
    decide +kernel
  have eachOut : ∀ text ∈ ["list[(str | int)]"], (answerTo? text).isSome := by
    decide +kernel
  have listSpells : exprOf? "list[Key]" = some (.subscript (.name "list") (.name "Key")) :=
    exprOf?_eq (by decide +kernel)
  have outSpells : exprOf? "list[(str | int)]" =
      some (.subscript (.name "list") keyExpr) :=
    exprOf?_eq (by decide +kernel)
  have keySpells : exprOf? "str | int" = some keyExpr :=
    exprOf?_eq (by decide +kernel)
  obtain ⟨answers, answered, found⟩ := exists_answers each
  obtain ⟨alone, aloneOk, outFound⟩ := exists_answers eachOut
  obtain ⟨meant, isMeant⟩ := found "str | int" (by simp)
  obtain ⟨given, isGiven⟩ := found "list[Key]" (by simp)
  obtain ⟨outGiven, isOutGiven⟩ := outFound "list[(str | int)]" (by simp)
  rw [← isBatch] at answered
  have writtenOut : WrittenOut (meaning? (Pending.collect listOfKeys))
      (.subscript (.name "list") (.name "Key")) (.subscript (.name "list") keyExpr) := by
    refine .applied ?_ ?_ (.cons (.named ?_) .nil)
    · rintro name ⟨⟩
      rw [meaning?, isKey, Json.lookup_cons_eq, if_neg (by decide)]
      rfl
    · rintro name ⟨⟩
      decide
    · rw [meaning?, isKey, Json.lookup_cons_eq, if_pos rfl, Option.bind_some, keySpells]
  have givenAgain : answers.lookup (Request.text { raw := some "list[Key]" }) =
      some given := by
    rw [isText, isGiven]
  have spellsAgain : exprOf? (Request.text { raw := some "list[Key]" }) =
      some (.subscript (.name "list") (.name "Key")) := by
    rw [isText, listSpells]
  obtain ⟨bare, resolved, outType, read, outRead, isResolved, -, -, same, -⟩ :=
    aliases_are_written_out answered
      (plainAliases_of_key isKey (by rw [isMeant]; rfl))
      (show listOfKeys[1]? = some { raw := some "list[Key]" } from rfl)
      givenAgain spellsAgain writtenOut outSpells aloneOk
      isOutGiven
  obtain ⟨descriptor, described, descriptorRead⟩ :=
    exists_descriptor_of_answer answered isGiven
  have formed : descriptorOf "list[Key]" =
      .ok (.reference "list" [.reference "Key" []]) :=
    (descriptorOf_eq listSpells).trans rfl
  obtain rfl := Except.ok.inj (formed.symm.trans described)
  obtain rfl := Except.ok.inj (read.symm.trans descriptorRead)
  obtain rfl := same.mpr rfl
  exact ⟨answers, alone, outGiven, resolved, answered, aloneOk, isOutGiven, isResolved,
    outRead⟩

/-- A union in the place of a member of a union stays a union of its own. -/
theorem union_alias_stays_nested :
    ∃ answers alone outGiven resolved outType,
      evaluator (Pending.collect optionalKey).batch = .ok answers ∧
        evaluator ["(str | int) | None"] = .ok alone ∧
        alone.lookup "(str | int) | None" = some outGiven ∧
        ((Pending.collect optionalKey).resolve answers).get? 1 = some resolved ∧
        TypeExpr.read outGiven = .ok outType ∧
        outType.isFlat ∧
        resolved.isFlat = false ∧
        resolved ≠ outType := by
  have isBatch : (Pending.collect optionalKey).batch = ["str | int", "Key | None"] := by
    decide +kernel
  have each : ∀ text ∈ ["(str | int) | None"], (answerTo? text).isSome := by
    decide +kernel
  have nests :
      ((evaluator ["str | int", "Key | None"]).toOption.bind fun answers =>
        ((Pending.collect optionalKey).resolve answers).get? 1).any (!·.isFlat) =
          true := by
    decide +kernel
  obtain ⟨answers, answered, nests⟩ : ∃ answers,
      evaluator ["str | int", "Key | None"] = .ok answers ∧
        (((Pending.collect optionalKey).resolve answers).get? 1).any (!·.isFlat) =
          true := by
    cases answered : evaluator ["str | int", "Key | None"] with
    | error =>
        rw [answered] at nests
        cases nests
    | ok answers =>
        rw [answered] at nests
        exact ⟨answers, rfl, nests⟩
  obtain ⟨alone, aloneOk, outFound⟩ := exists_answers each
  obtain ⟨outGiven, isOutGiven⟩ := outFound "(str | int) | None" (by simp)
  obtain ⟨descriptor, described, read⟩ := exists_descriptor_of_answer aloneOk isOutGiven
  obtain ⟨expr, -, formed⟩ := exists_expr_of_descriptorOf described
  have outFlat := Hint.isFlat_of_describe formed
  cases isResolved : ((Pending.collect optionalKey).resolve answers).get? 1 with
  | none =>
      rw [isResolved] at nests
      cases nests
  | some resolved =>
      rw [isResolved, Option.any_some, Bool.not_eq_true'] at nests
      refine ⟨answers, alone, outGiven, resolved, descriptor.type, isBatch ▸ answered,
        aloneOk, isOutGiven, isResolved, read, outFlat, nests, ?_⟩
      rintro rfl
      rw [Descriptor.IsFlat, nests] at outFlat
      cases outFlat

end ApiTree.Interp
