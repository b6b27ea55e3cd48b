namespace ApiTree.Hint

/-!
# Trouble

What evaluates an expression may give nothing, for one of two reasons.  One evaluation
extends another one if it gives whatever that one gives.
-/

/-- Why an expression gives nothing. -/
inductive Trouble where
  /-- The expression is left out of the answer. -/
  | rejected
  /-- The evaluation of the whole batch stops. -/
  | crashed
  deriving Repr, DecidableEq

theorem bind_eq_ok_iff
    {ε α β : Type}
    {first : Except ε α}
    {next : α → Except ε β}
    {result : β} :
    first.bind next = .ok result ↔
      ∃ found, first = .ok found ∧ next found = .ok result := by
  cases first <;> simp [Except.bind]

theorem map_eq_ok_iff
    {ε α β : Type}
    {first : Except ε α}
    {change : α → β}
    {result : β} :
    first.map change = .ok result ↔
      ∃ found, first = .ok found ∧ change found = result := by
  cases first <;> simp [Except.map]

/-- That one evaluation gives whatever another one gives. -/
def Extends
    {α β : Type}
    (one other : α → Except Trouble β) :
    Prop :=
  ∀ item result, one item = .ok result → other item = .ok result

namespace Extends

variable
    {α β : Type}
    {one other : α → Except Trouble β}

/-- What extends an evaluation extends it for all items of a list. -/
theorem mapM
    (extended : Extends one other)
    {items : List α}
    {results : List β}
    (evaluates : items.mapM one = .ok results) :
    items.mapM other = .ok results := by
  induction items generalizing results with
  | nil => exact evaluates
  | cons first rest inductionHypothesis =>
      rw [List.mapM_cons] at evaluates ⊢
      obtain ⟨result, isFirst, evaluates⟩ := bind_eq_ok_iff.mp evaluates
      obtain ⟨others, areOthers, same⟩ := bind_eq_ok_iff.mp evaluates
      cases same
      rw [extended first result isFirst, inductionHypothesis areOthers]
      rfl

end Extends

section Rooms

variable
    {α β : Type}
    {evaluation : Nat → α → Except Trouble β}

/-- An evaluation that every further call extends is extended by any number of calls. -/
theorem extends_of_le
    (step : ∀ room, Extends (evaluation room) (evaluation (room + 1)))
    {room larger : Nat}
    (le : room ≤ larger) :
    Extends (evaluation room) (evaluation larger) := by
  induction le with
  | refl => exact fun _ _ evaluates => evaluates
  | step _ inductionHypothesis =>
      exact fun item result evaluates =>
        step _ item result (inductionHypothesis item result evaluates)

/-- Such an evaluation has one result, however many calls may be nested. -/
theorem result_unique
    (step : ∀ room, Extends (evaluation room) (evaluation (room + 1)))
    {room other : Nat}
    {item : α}
    {result found : β}
    (evaluates : evaluation room item = .ok result)
    (evaluatesElsewhere : evaluation other item = .ok found) :
    result = found := by
  rcases Nat.le_total room other with le | le
  · have same := extends_of_le step le item result evaluates
    exact Except.ok.inj (same.symm.trans evaluatesElsewhere)
  · have same := extends_of_le step le item found evaluatesElsewhere
    exact Except.ok.inj (evaluates.symm.trans same)

end Rooms

end ApiTree.Hint
