import ApiTree.Json.Decoder

namespace ApiTree.Json

/-!
# Trees that break off

When the machine stops at a lexeme, the tree that it leaves is cut: it is no value, or
a list or an object without its end.  Nobody who keeps values reads a cut tree.
-/

/-- That a tree is no value, or has no end. -/
inductive Tree.IsCut : Tree → Prop where
  | broken (start : Nat) (reading skipping : Fault) :
      IsCut (.broken start reading skipping)
  | array
      (start : Nat)
      (items : List Tree)
      (reading skipping finishing : Fault) :
      IsCut (.array start items (.failed reading skipping finishing))
  | object
      (start : Nat)
      (members : List (Key × Tree))
      (reading skipping finishing : Fault) :
      IsCut (.object start members (.failed reading skipping finishing))

/-- No value is read from a cut tree. -/
theorem Tree.IsCut.readValue_ne_ok
    {tree : Tree}
    (cut : tree.IsCut)
    (levels : Nat)
    (value : Value) :
    tree.readValue levels ≠ .ok value := by
  cases cut with
  | broken => simp [Tree.readValue]
  | array start items =>
      simp only [Tree.readValue, bind, Except.bind]
      cases openLevel start levels with
      | error fault => simp
      | ok inner =>
          cases read : Tree.readValues inner items <;> simp [read, Ending.read]
  | object start members =>
      simp only [Tree.readValue, bind, Except.bind]
      cases openLevel start levels with
      | error fault => simp
      | ok inner =>
          cases read : Tree.readMembers inner members <;> simp [read, Ending.read]

namespace Record

variable
    {σ : Type}
    {record : Record σ}

theorem readItems_failed_ne_ok
    (levels : Nat)
    (reading skipping finishing : Fault)
    (count : Nat)
    (state found : σ)
    (fields : List (RecordField σ))
    (items : List Tree) :
    record.readItems levels (.failed reading skipping finishing) count state fields
      items ≠ .ok found := by
  induction fields generalizing count state items with
  | nil => cases items <;> simp [readItems, Ending.require, bind, Except.bind]
  | cons field fields inductionHypothesis =>
      cases items with
      | nil => simp [readItems, Ending.read, bind, Except.bind]
      | cons item items =>
          simp only [readItems, bind, Except.bind]
          split
          · simp
          · exact inductionHypothesis _ _ _

/-- No record is decoded from a cut tree. -/
theorem decoder_ne_ok_of_isCut
    {tree : Tree}
    (cut : tree.IsCut)
    (levels : Nat)
    (found : σ) :
    record.decoder levels tree ≠ .ok found := by
  cases cut with
  | broken => simp [decoder]
  | array start items =>
      simp only [decoder, bind, Except.bind]
      split
      · simp
      · exact readItems_failed_ne_ok _ _ _ _ _ _ _ _ _
  | object start members =>
      simp only [decoder, bind, Except.bind]
      split
      · simp
      · split <;> simp [Ending.read]

end Record

namespace Building

theorem isCut_closeFrame
    (frame : Frame)
    (last : Option Tree)
    (reading skipping finishing : Fault) :
    (closeFrame frame last (.failed reading skipping finishing)).IsCut := by
  cases frame with
  | array => exact .array _ _ _ _ _
  | object _ _ key =>
      cases key with
      | none => exact .object _ _ _ _ _
      | some key => cases last <;> exact .object _ _ _ _ _

theorem isCut_unwind
    {tree : Tree}
    (cut : tree.IsCut)
    (reading skipping : Fault)
    (stack : List Frame) :
    (unwind reading skipping tree stack).IsCut := by
  induction stack generalizing tree with
  | nil => exact cut
  | cons frame stack inductionHypothesis =>
      exact inductionHypothesis (isCut_closeFrame _ _ _ _ _)

/-- That a machine that has stopped has left a cut tree. -/
def StopsCut (building : Building) : Prop :=
  ∀ tree, building = .stopped tree → tree.IsCut

theorem stopsCut_waiting
    (phase : Phase)
    (stack : List Frame) :
    StopsCut (.waiting phase stack) := by
  intro tree stopped
  cases stopped

theorem stopsCut_complete
    (tree : Tree)
    (trailing : Option Nat) :
    StopsCut (.complete tree trailing) := by
  intro tree stopped
  cases stopped

theorem stopsCut_stopAtValue
    (start : Nat)
    (reading skipping : Fault)
    (stack : List Frame) :
    StopsCut (stopAtValue start reading skipping stack) := by
  intro tree stopped
  cases stopped
  exact isCut_unwind (.broken _ _ _) _ _ _

theorem stopsCut_stopInFrame
    (reading skipping finishing : Fault)
    (stack : List Frame) :
    StopsCut (stopInFrame reading skipping finishing stack) := by
  intro tree stopped
  cases stack with
  | nil =>
      cases stopped
      exact .broken _ _ _
  | cons frame stack =>
      cases stopped
      exact isCut_unwind (isCut_closeFrame _ _ _ _ _) _ _ _

theorem stopsCut_stopAfterName
    (name : Except Fault String)
    (next : Nat)
    (fault : Fault)
    (stack : List Frame) :
    StopsCut (stopAfterName name next fault stack) := by
  rw [stopAfterName.eq_def]
  split <;> exact stopsCut_stopAtValue _ _ _ _

theorem stopsCut_deliver
    (tree : Tree)
    (stack : List Frame) :
    StopsCut (deliver tree stack) := by
  rw [deliver.eq_def]
  split
  · exact stopsCut_complete _ _
  all_goals exact stopsCut_waiting _ _

theorem stopsCut_close
    (stop : Nat)
    (stack : List Frame) :
    StopsCut (close stop stack) := by
  cases stack with
  | nil =>
      intro tree stopped
      cases stopped
      exact .broken _ _ _
  | cons frame stack => exact stopsCut_deliver _ _

theorem stopsCut_takeValue
    (placed : Placed)
    (stack : List Frame) :
    StopsCut (takeValue placed stack) := by
  rw [takeValue]
  split
  all_goals first
    | exact stopsCut_deliver _ _
    | exact stopsCut_waiting _ _
    | exact stopsCut_stopAtValue _ _ _ _

theorem stopsCut_takeKey
    (placed : Placed)
    (stack : List Frame) :
    StopsCut (takeKey placed stack) := by
  rw [takeKey]
  split
  · exact stopsCut_waiting _ _
  all_goals exact stopsCut_stopInFrame _ _ _ _

theorem stopsCut_takeSeparator
    (placed : Placed)
    (stack : List Frame) :
    StopsCut (takeSeparator placed stack) := by
  rw [takeSeparator.eq_def]
  split
  all_goals first
    | exact stopsCut_waiting _ _
    | exact stopsCut_close _ _
    | exact stopsCut_stopInFrame _ _ _ _

/-- A step leaves a cut tree when it stops. -/
theorem StopsCut.step
    {building : Building}
    (stopsCut : building.StopsCut)
    (placed : Placed) :
    (building.step placed).StopsCut := by
  rw [step.eq_def]
  split
  · exact stopsCut
  · exact stopsCut_complete _ _
  · exact stopsCut_complete _ _
  · split
    · exact stopsCut_takeValue _ _
    · split
      · exact stopsCut_close _ _
      · exact stopsCut_takeValue _ _
    · split
      · exact stopsCut_stopInFrame _ _ _ _
      · exact stopsCut_takeValue _ _
    · split
      · exact stopsCut_close _ _
      · exact stopsCut_takeKey _ _
    · split
      · exact stopsCut_stopInFrame _ _ _ _
      · exact stopsCut_takeKey _ _
    · simp only
      split
      · exact stopsCut_waiting _ _
      all_goals exact stopsCut_stopAfterName _ _ _ _
    · exact stopsCut_takeSeparator _ _

/-- A run leaves a cut tree when it stops. -/
theorem StopsCut.run
    {building : Building}
    (stopsCut : building.StopsCut)
    (placed : List Placed) :
    (building.run placed).StopsCut := by
  induction placed generalizing building with
  | nil => exact stopsCut
  | cons first rest inductionHypothesis =>
      exact inductionHypothesis (stopsCut.step first)

/-- A text that ends too early leaves a cut tree. -/
theorem stopsCut_finish
    (stop : Nat)
    (phase : Phase)
    (stack : List Frame) :
    StopsCut ((waiting phase stack).finish stop) := by
  cases phase with
  | value => exact stopsCut_stopAtValue _ _ _ _
  | firstItem | nextItem | firstKey | nextKey => exact stopsCut_stopInFrame _ _ _ _
  | colon name => exact stopsCut_stopAfterName _ _ _ _
  | separator =>
      simp only [finish]
      split <;> exact stopsCut_stopInFrame _ _ _ _

end Building

end ApiTree.Json
