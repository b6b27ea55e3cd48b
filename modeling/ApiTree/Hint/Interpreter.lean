import ApiTree.Hint.Expr
import ApiTree.Hint.Trouble

namespace ApiTree.Hint

/-!
# Interpreters

Expressions are described by a script that an interpreter runs.  The script has texts
read and literals evaluated by the interpreter, and its calls nest as deep as the
interpreter lets them.  Interpreters differ in all of this.
-/

/-- What the description of expressions takes from the interpreter. -/
class Interpreter where
  /--
  The expression of a text, read where so many calls may still be nested.  A text that is
  no expression is rejected; one that is beyond the means of the interpreter may also stop
  it.
  -/
  parse : Nat → List Char → Except Trouble Expr
  /-- What is read is read alike where another call may be nested. -/
  parse_extends : ∀ room, Extends (parse room) (parse (room + 1))
  /-- The value of a literal, evaluated where so many calls may still be nested. -/
  evaluate : Nat → Expr → Except Trouble Constant
  /-- What is evaluated has the same value where another call may be nested. -/
  evaluate_extends : ∀ room, Extends (evaluate room) (evaluate (room + 1))
  /-- How many calls may be nested in the description of an expression of a batch. -/
  callLimit : Nat
  /-- Whether the results for the items of a list are gathered in a call of their own. -/
  gathersInCall : Bool

namespace Interpreter

variable [Interpreter]

/--
How many calls may be nested for an item of a list.  The argument is how many may be two
calls further in than the list: one call for the items, one for their list if need be.
-/
def itemRoom (room : Nat) : Nat :=
  if gathersInCall then room else room + 1

/-- What holds for either room holds for that of an item. -/
theorem itemRoom_cases
    {motive : Nat → Prop}
    {room : Nat}
    (inCall : motive room)
    (outside : motive (room + 1)) :
    motive (itemRoom room) := by
  unfold itemRoom
  split
  · exact inCall
  · exact outside

theorem itemRoom_succ (room : Nat) : itemRoom (room + 1) = itemRoom room + 1 := by
  unfold itemRoom
  split <;> rfl

end Interpreter

end ApiTree.Hint
