import ApiTree.Hint.Constant

namespace ApiTree.Hint

/-!
# Expressions

The expressions that a type can be written with.  All others are one case: they
have to be grammatical, but nothing more is asked of them.
-/

/-- The operators between two operands, as far as they are told apart. -/
inductive BinaryOp where
  | add
  | subtract
  | bitOr
  | other
  deriving Repr, DecidableEq, Inhabited

/-- The operators in front of one operand, as far as they are told apart. -/
inductive UnaryOp where
  | plus
  | minus
  | other
  deriving Repr, DecidableEq, Inhabited

/-- An expression. -/
inductive Expr where
  | constant (value : Constant)
  | name (id : String)
  | attribute (value : Expr) (name : String)
  | subscript (value index : Expr)
  | binary (op : BinaryOp) (left right : Expr)
  | unary (op : UnaryOp) (operand : Expr)
  | list (items : List Expr)
  | tuple (items : List Expr)
  | set (items : List Expr)
  /-- A dictionary; what is unpacked into it has `other` for a key. -/
  | dict (keys values : List Expr)
  | call (function : Expr) (hasArguments : Bool)
  /-- An item that is unpacked. -/
  | starred (value : Expr)
  | other
  deriving Repr, Inhabited

namespace Expr

/--
The name that dots and names spell.  The bound limits how many dots are
followed.
-/
def dottedName? : Nat → Expr → Option String
  | 0, _ => none
  | _ + 1, .name id => some id
  | bound + 1, .attribute value field =>
      (dottedName? bound value).map fun base => base ++ "." ++ field
  | _ + 1, _ => none

theorem dottedName?_succ
    {bound : Nat}
    {expr : Expr}
    {name : String}
    (dotted : dottedName? bound expr = some name) :
    dottedName? (bound + 1) expr = some name := by
  induction bound generalizing expr name with
  | zero => cases dotted
  | succ bound inductionHypothesis =>
      match expr, dotted with
      | .name id, dotted => exact dotted
      | .attribute value field, dotted =>
          rw [dottedName?] at dotted
          obtain ⟨base, isBase, rfl⟩ := Option.map_eq_some_iff.mp dotted
          rw [dottedName?, inductionHypothesis isBase]
          rfl

/-- What stands between the brackets of a subscript: one item, or those of a tuple. -/
def subscriptItems (index : Expr) : List Expr :=
  match index with
  | .tuple items => items
  | item => [item]

end Expr

end ApiTree.Hint
