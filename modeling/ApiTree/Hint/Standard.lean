import ApiTree.Hint.Grammar
import ApiTree.Hint.Interpreter
import ApiTree.Hint.Literal

namespace ApiTree.Hint

/-!
# The standard interpreter

The interpreter under which batches are evaluated unless another one is named.  It stops
at a text whose rules nest too deep for its stack, however many calls are left.
-/

namespace Standard

/-- The expression of a text, which one call reads. -/
def parse (room : Nat) (chars : List Char) : Except Trouble Expr :=
  if room = 0 then .error .rejected else Hint.parse chars

theorem parse_extends (room : Nat) : Extends (parse room) (parse (room + 1)) := by
  intro chars expr reads
  cases room with
  | zero => cases reads
  | succ room => exact reads

/-- The value of a literal, which one call evaluates with the help of others. -/
def evaluate (room : Nat) (expr : Expr) : Except Trouble Constant :=
  expr.value (room - 1)

theorem evaluate_extends (room : Nat) : Extends (evaluate room) (evaluate (room + 1)) := by
  intro expr constant evaluates
  cases room with
  | zero => cases evaluates
  | succ room => exact Expr.value_extends room expr constant evaluates

end Standard

instance standard : Interpreter where
  parse := Standard.parse
  parse_extends := Standard.parse_extends
  evaluate := Standard.evaluate
  evaluate_extends := Standard.evaluate_extends
  callLimit := 996
  gathersInCall := true

end ApiTree.Hint
