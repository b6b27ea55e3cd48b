import ApiTree.Hint.Expr
import ApiTree.Hint.Trouble

namespace ApiTree.Hint

/-!
# Literal values

Some expressions stand for a value by themselves: constants, signed numbers,
sums that make a complex number, and displays of such values.
-/

namespace Expr

/-- A number without a sign. -/
def number? : Expr → Option Constant
  | .constant (.integer value) => some (.integer value)
  | .constant (.real value) => some (.real value)
  | .constant (.complex realPart imaginaryPart) =>
      some (.complex realPart imaginaryPart)
  | _ => none

/-- The opposite of a number. -/
def opposite : Constant → Constant
  | .integer value => .integer (-value)
  | .real value => .real value.negate
  | .complex realPart imaginaryPart =>
      .complex realPart.negate imaginaryPart.negate
  | value => value

/-- A number with or without a sign. -/
def signedNumber? : Expr → Option Constant
  | .unary .plus operand => operand.number?
  | .unary .minus operand => operand.number?.map opposite
  | expr => expr.number?

/-- The sum of a real number and an imaginary one. -/
def complexSum
    (op : BinaryOp)
    (left right : Constant) :
    Except Trouble Constant :=
  let imaginary? : Option Real :=
    match op, right with
    | .add, .complex _ imaginaryPart => some imaginaryPart
    | .subtract, .complex _ imaginaryPart => some imaginaryPart.negate
    | _, _ => none
  match left, imaginary? with
  | .integer value, some imaginary =>
      match Real.ofInt? value with
      | some realPart => .ok (.complex realPart imaginary)
      | none => .error .crashed
  | .real value, some imaginary => .ok (.complex value imaginary)
  | _, _ => .error .rejected

/-- The value of an operator between two numbers. -/
def sumValue
    (op : BinaryOp)
    (left right : Expr) :
    Except Trouble Constant :=
  match left.signedNumber?, right.number? with
  | some leftValue, some rightValue => complexSum op leftValue rightValue
  | _, _ => .error .rejected

/-- Evaluates items of which each has to be hashable. -/
def checkElements
    (evaluate : Expr → Except Trouble Constant) :
    List Expr → Except Trouble Unit
  | [] => .ok ()
  | first :: rest => do
      let element ← evaluate first
      if element.isHashable then
        checkElements evaluate rest
      else
        .error .crashed

/-- Evaluates keys, which have to be hashable, and values, a pair at a time. -/
def collectEntries
    (evaluate : Expr → Except Trouble Constant)
    (entries : List (Constant × Constant)) :
    List (Expr × Expr) → Except Trouble (List (Constant × Constant))
  | [] => .ok entries
  | first :: rest => do
      let key ← evaluate first.1
      let content ← evaluate first.2
      if key.isHashable then
        collectEntries evaluate (Constant.insertEntry key content entries) rest
      else
        .error .crashed

/-- How many calls the evaluation of a signed number takes. -/
def numberCalls : Nat := 3

/--
The value of an expression.  The bound is how many calls may still be nested;
beyond it the expression is rejected.
-/
def value : Nat → Expr → Except Trouble Constant
  | 0, _ => .error .rejected
  | bound + 1, expr =>
      match expr with
      | .constant found => .ok found
      | .list items => (items.mapM (value bound)).map .list
      | .tuple items => (items.mapM (value bound)).map .tuple
      | .set items => (checkElements (value bound) items).map fun _ => .set
      | .call (.name "set") false => .ok .set
      | .dict keys values =>
          (collectEntries (value bound) [] (keys.zip values)).map .dict
      | .binary op left right =>
          if bound + 1 < numberCalls then .error .rejected else sumValue op left right
      | .unary op operand =>
          if bound + 1 < numberCalls then
            .error .rejected
          else
            match (Expr.unary op operand).signedNumber? with
            | some number => .ok number
            | none => .error .rejected
      | _ => .error .rejected

/-! ## More nested calls -/

theorem checkElements_extends
    {one other : Expr → Except Trouble Constant}
    (extended : Extends one other) :
    Extends (checkElements one) (checkElements other) := by
  intro items result checked
  induction items with
  | nil => exact checked
  | cons first rest inductionHypothesis =>
      obtain ⟨element, evaluates, checked⟩ := bind_eq_ok_iff.mp checked
      rw [checkElements, extended first element evaluates]
      split at checked
      · rename_i hashable
        exact (if_pos hashable).trans (inductionHypothesis checked)
      · cases checked

theorem collectEntries_extends
    {one other : Expr → Except Trouble Constant}
    (extended : Extends one other)
    (entries : List (Constant × Constant)) :
    Extends (collectEntries one entries) (collectEntries other entries) := by
  intro items result collected
  induction items generalizing entries with
  | nil => exact collected
  | cons first rest inductionHypothesis =>
      obtain ⟨key, keyEvaluates, collected⟩ := bind_eq_ok_iff.mp collected
      obtain ⟨content, contentEvaluates, collected⟩ := bind_eq_ok_iff.mp collected
      rw [collectEntries, extended _ _ keyEvaluates, extended _ _ contentEvaluates]
      split at collected
      · rename_i hashable
        exact (if_pos hashable).trans (inductionHypothesis _ collected)
      · cases collected

/-- No call is evaluated, except that of the empty set. -/
theorem value_call
    (bound larger : Nat)
    (function : Expr)
    (hasArguments : Bool) :
    value (bound + 1) (.call function hasArguments) =
      value (larger + 1) (.call function hasArguments) := by
  by_cases isSet : function = .name "set" ∧ hasArguments = false
  · obtain ⟨rfl, rfl⟩ := isSet
    rfl
  · rw [value.eq_def, value.eq_def]
    simp only
    split <;> simp_all

/-- What has a value has it as well where another call may be nested. -/
theorem value_extends (bound : Nat) : Extends (value bound) (value (bound + 1)) := by
  induction bound with
  | zero =>
      intro expr result evaluates
      cases evaluates
  | succ bound inductionHypothesis =>
      intro expr result evaluates
      match expr, evaluates with
      | .constant _, evaluates => exact evaluates
      | .call function hasArguments, evaluates =>
          rw [value_call bound (bound + 1)] at evaluates
          exact evaluates
      | .list items, evaluates | .tuple items, evaluates =>
          rw [value] at evaluates
          obtain ⟨values, each, rfl⟩ := map_eq_ok_iff.mp evaluates
          rw [value, inductionHypothesis.mapM each]
          rfl
      | .set items, evaluates =>
          rw [value] at evaluates
          obtain ⟨_, checked, rfl⟩ := map_eq_ok_iff.mp evaluates
          rw [value, checkElements_extends inductionHypothesis _ _ checked]
          rfl
      | .dict keys values, evaluates =>
          rw [value] at evaluates
          obtain ⟨entries, collected, rfl⟩ := map_eq_ok_iff.mp evaluates
          rw [value, collectEntries_extends inductionHypothesis _ _ _ collected]
          rfl
      | .binary op left right, evaluates | .unary op operand, evaluates =>
          rw [value] at evaluates ⊢
          split at evaluates
          · cases evaluates
          · rw [if_neg (by omega)]
            exact evaluates

end Expr

end ApiTree.Hint
