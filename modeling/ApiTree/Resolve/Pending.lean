import ApiTree.Decl.Basic
import ApiTree.Resolve.Expression

namespace ApiTree.Resolve

open ApiTree.Decl (Declaration Info TypeExpr)
open ApiTree.Json (Value)

/-!
# Pending types

Type expressions are collected while declarations are made, one slot for each
occurrence, and answered in one batch.  An alias is a name that stands for an
expression; a type that is nothing but an alias is resolved to what the alias
stands for, also inside other types.
-/

/-- The collected expressions by slot, and the aliases, newest first. -/
structure Pending where
  expressions : List String := []
  aliases : List (String × String) := []
  deriving Repr

/-- The answers to a batch: a value for each expression that was understood. -/
abbrev Answers : Type := List (String × Value)

/-- The resolved type of each slot that has one. -/
structure Resolved where
  bySlot : List (Option TypeExpr)
  deriving Repr

/-- How many aliases are followed one after another. -/
def aliasLimit : Nat := 8

namespace Pending

/-- Nothing collected. -/
def empty : Pending := {}

/--
Collects an expression and gives its placeholder.  The expression may also be
what an alias stands for.
-/
def register
    (pending : Pending)
    (raw : Option String)
    (aliasName : Option String) :
    TypeExpr × Pending :=
  let name :=
    match raw with
    | some expression => cleanExpression expression
    | none => undefinedType
  let aliases :=
    match aliasName with
    | some known => (known, name) :: pending.aliases
    | none => pending.aliases
  ( TypeExpr.placeholder name pending.expressions.length,
    { expressions := pending.expressions ++ [name], aliases := aliases } )

/-- The number of slots. -/
def count (pending : Pending) : Nat :=
  pending.expressions.length

/-- Whether a name is an alias. -/
def isAlias
    (pending : Pending)
    (name : String) :
    Bool :=
  (pending.aliases.lookup name).isSome

/-- The elements that differ from all before them. -/
def distinct
    (seen : List String) :
    List String → List String
  | [] => []
  | first :: rest =>
      if seen.contains first then
        distinct seen rest
      else
        first :: distinct (first :: seen) rest

/-- The expressions to be answered: each once, the empty one left out. -/
def batch (pending : Pending) : List String :=
  distinct [] (pending.expressions.filter (!·.isEmpty))

/-- The answers that are type expressions. -/
def decodeAnswers (answers : Answers) : List (String × TypeExpr) :=
  answers.filterMap fun answer =>
    match TypeExpr.read answer.2 with
    | .ok type => some (answer.1, type)
    | .error _ => none

end Pending

mutual

/-- Replaces every bare name that a table knows. -/
def replaceBare
    (lookup : String → Option TypeExpr) :
    TypeExpr → TypeExpr
  | .named name target [] slot =>
      match lookup name with
      | some replacement => replacement
      | none => .named name target [] slot
  | .named name target (first :: rest) slot =>
      .named name target (replaceBareAll lookup (first :: rest)) slot
  | .literal value => .literal value
  | .union members => .union (replaceBareAll lookup members)
  | .tuple elements => .tuple (replaceBareAll lookup elements)

/-- Replaces the bare names in each of several expressions. -/
def replaceBareAll
    (lookup : String → Option TypeExpr) :
    List TypeExpr → List TypeExpr
  | [] => []
  | first :: rest => replaceBare lookup first :: replaceBareAll lookup rest

end

/-- Follows aliases, at most a number of them one after another. -/
def expandAliases
    (lookup : String → Option TypeExpr) :
    Nat → TypeExpr → TypeExpr
  | 0 => fun type => type
  | steps + 1 =>
      replaceBare fun name => (lookup name).map (expandAliases lookup steps)

namespace Pending

/-- The type that an alias stands for, if its expression was understood. -/
def aliasType?
    (pending : Pending)
    (decoded : List (String × TypeExpr))
    (name : String) :
    Option TypeExpr :=
  (pending.aliases.lookup name).bind fun expression => decoded.lookup expression

/-- The type of each slot, given the answers to the batch. -/
def resolve
    (pending : Pending)
    (answers : Answers) :
    Resolved :=
  let decoded := decodeAnswers answers
  { bySlot := pending.expressions.map fun expression =>
      (pending.aliasType? decoded expression <|> decoded.lookup expression).map
        (expandAliases (pending.aliasType? decoded) aliasLimit) }

/--
Sends the batch to a parser and resolves the slots by its answers.  The parser may keep a
state, which is given as the parser leaves it.
-/
def resolveAll
    {σ ε : Type}
    (pending : Pending)
    (parser : List String → σ → Except ε Answers × σ)
    (state : σ) :
    Except ε Resolved × σ :=
  let (answers, after) := parser pending.batch state
  (answers.map pending.resolve, after)

end Pending

namespace Resolved

/-- The type of a slot. -/
def get?
    (resolved : Resolved)
    (slot : Nat) :
    Option TypeExpr :=
  (resolved.bySlot[slot]?).join

/-- The number of slots that have a type. -/
def count (resolved : Resolved) : Nat :=
  (resolved.bySlot.filter (·.isSome)).length

/-- The type that replaces the placeholder of a declaration. -/
def replacement?
    (resolved : Resolved)
    (info : Info) :
    Option TypeExpr :=
  (info.type.bind TypeExpr.slot?).bind resolved.get?

/-- A declaration's information with its placeholder replaced. -/
def applyInfo
    (resolved : Resolved)
    (info : Info) :
    Info :=
  match resolved.replacement? info with
  | some type => { info with type := some type }
  | none => info

/-- A tree with its placeholders replaced, and how many were. -/
def apply
    (resolved : Resolved)
    (root : Declaration) :
    Declaration × Nat :=
  ( root.mapInfo resolved.applyInfo,
    (root.infos.filter fun info => (resolved.replacement? info).isSome).length )

end Resolved

end ApiTree.Resolve
