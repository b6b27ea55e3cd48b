import ApiTree.Hint.Standard
import ApiTree.Proofs.Hint.WritingOut

namespace ApiTree.Hint

/-!
# Ways to write a union

A union is written with bars or between the brackets of a name.  An operand of a bar is
described one call further in, and what stands between brackets one or two, as the
interpreter has it.  So the ways to write a union differ in how many calls they need, but
where they are accepted they give the same descriptor: a union in the place of a member
gives its own members to the union around it.
-/

namespace Expr

/-- Two expressions with a bar between them. -/
def either (left right : Expr) : Expr :=
  .binary .bitOr left right

/-- The union of expressions between brackets. -/
def unionOf (items : List Expr) : Expr :=
  .subscript (.name "Union") (.tuple items)

/-- The union of an expression with nothing, between brackets. -/
def optional (item : Expr) : Expr :=
  .subscript (.name "Optional") item

/-- The expression for nothing. -/
def none : Expr :=
  .constant .null

/-- Whether an expression is a tuple, whose items stand between brackets by themselves. -/
def isTuple : Expr → Bool
  | .tuple _ => true
  | _ => false

theorem subscriptItems_eq_singleton
    {item : Expr}
    (notTuple : item.isTuple = false) :
    item.subscriptItems = [item] := by
  unfold subscriptItems
  split
  · cases notTuple
  · rfl

end Expr

open ApiTree.Hint.Expr (either optional)
open ApiTree.Hint.Interpreter (callLimit itemRoom)

section Agreement

variable
    [Interpreter]
    {bound : Nat}
    {first second third item : Expr}
    {descriptor : Descriptor}

/-! ## What each way is described as -/

theorem describe_either_eq_ok_iff :
    describe (bound + 1) (either first second) = .ok descriptor ↔
      ∃ left right, describe bound first = .ok left ∧
        describe bound second = .ok right ∧ descriptor = .unionOf [left, right] := by
  cases bound with
  | zero => simp [describe]
  | succ bound =>
      constructor
      · intro described
        cases formed_of_describe described with
        | either formedLeft formedRight => exact ⟨_, _, formedLeft, formedRight, rfl⟩
      · rintro ⟨left, right, formedLeft, formedRight, rfl⟩
        exact describe_of_formed (.either formedLeft formedRight)

theorem describe_unionOf_eq_ok_iff {items : List Expr} :
    describe (bound + 2) (.unionOf items) = .ok descriptor ↔
      ∃ members, DescribesAll (itemRoom bound) items members ∧
        descriptor = .unionOf members := by
  have isName : Expr.dottedName? (bound + 1) (.name "Union") = some "Union" := rfl
  constructor
  · intro described
    cases formedApplied_of_describe isName described with
    | union _ _ formed => exact ⟨_, formed, rfl⟩
    | optional isOptional => exact absurd isOptional (by decide)
    | values _ notUnion | reference _ notUnion => exact absurd (by decide) notUnion
  · rintro ⟨members, formed, rfl⟩
    exact describe_of_formed
      (.applied isName (.union (by decide) (by decide) formed))

theorem describe_optional_eq_ok_iff (notTuple : item.isTuple = false) :
    describe (bound + 2) (optional item) = .ok descriptor ↔
      ∃ inner, describe (bound + 1) item = .ok inner ∧
        descriptor = .unionOf [inner, .nothing] := by
  have isName : Expr.dottedName? (bound + 1) (.name "Optional") = some "Optional" := rfl
  have alone := Expr.subscriptItems_eq_singleton notTuple
  constructor
  · intro described
    cases formedApplied_of_describe isName described with
    | optional _ startsWith formed =>
        obtain ⟨rfl, -⟩ := List.cons.inj (alone.symm.trans startsWith)
        exact ⟨_, formed, rfl⟩
    | union notOptional | values notOptional | reference notOptional =>
        exact absurd (by decide) notOptional
  · rintro ⟨inner, formed, rfl⟩
    exact describe_of_formed (.applied isName (.optional (by decide) alone formed))

/-! ## Where each way is accepted -/

/-- That an expression is described where so many calls may be nested. -/
def Accepted
    (bound : Nat)
    (expr : Expr) :
    Prop :=
  ∃ descriptor, describe bound expr = .ok descriptor

/-- Nothing is accepted without room for two calls. -/
theorem Accepted.two_le
    {expr : Expr}
    (accepted : Accepted bound expr) :
    2 ≤ bound := by
  obtain ⟨descriptor, described⟩ := accepted
  match bound, described with
  | bound + 2, _ => exact Nat.le_add_left 2 bound

theorem accepted_name_iff {id : String} : Accepted bound (.name id) ↔ 2 ≤ bound := by
  refine ⟨Accepted.two_le, fun enough => ?_⟩
  obtain ⟨room, rfl⟩ := Nat.exists_eq_add_of_le' enough
  exact ⟨_, describe_of_formed (.name id)⟩

theorem describe_none (enough : 2 ≤ bound) : describe bound .none = .ok .nothing := by
  obtain ⟨room, rfl⟩ := Nat.exists_eq_add_of_le' enough
  exact describe_of_formed .nothing

theorem accepted_either_iff :
    Accepted (bound + 1) (either first second) ↔
      Accepted bound first ∧ Accepted bound second := by
  simp only [Accepted, describe_either_eq_ok_iff]
  constructor
  · rintro ⟨_, left, right, isLeft, isRight, -⟩
    exact ⟨⟨left, isLeft⟩, ⟨right, isRight⟩⟩
  · rintro ⟨⟨left, isLeft⟩, ⟨right, isRight⟩⟩
    exact ⟨_, left, right, isLeft, isRight, rfl⟩

theorem accepted_unionOf_iff {items : List Expr} :
    Accepted (bound + 2) (.unionOf items) ↔
      ∀ item ∈ items, Accepted (itemRoom bound) item := by
  have each : (∃ members, DescribesAll (itemRoom bound) items members) ↔
      ∀ item ∈ items, Accepted (itemRoom bound) item := by
    induction items with
    | nil => exact ⟨fun _ => List.forall_mem_nil _, fun _ => ⟨[], .nil⟩⟩
    | cons item items inductionHypothesis =>
        rw [List.forall_mem_cons, ← inductionHypothesis]
        constructor
        · rintro ⟨_, formed⟩
          cases formed with
          | cons isFirst others => exact ⟨⟨_, isFirst⟩, _, others⟩
        · rintro ⟨⟨_, isFirst⟩, _, others⟩
          exact ⟨_, .cons isFirst others⟩
  rw [← each]
  simp only [Accepted, describe_unionOf_eq_ok_iff]
  constructor
  · rintro ⟨_, members, formed, -⟩
    exact ⟨members, formed⟩
  · rintro ⟨members, formed⟩
    exact ⟨_, members, formed, rfl⟩

theorem accepted_optional_iff (notTuple : item.isTuple = false) :
    Accepted (bound + 2) (optional item) ↔ Accepted (bound + 1) item := by
  simp only [Accepted, describe_optional_eq_ok_iff notTuple]
  constructor
  · rintro ⟨_, inner, formed, -⟩
    exact ⟨inner, formed⟩
  · rintro ⟨inner, formed⟩
    exact ⟨_, inner, formed, rfl⟩

/-! ## One descriptor -/

/-- That an expression has one descriptor wherever it has one, and so have its texts. -/
structure DescribedAs
    (descriptor : Descriptor)
    (form : Expr) :
    Prop where
  described : ∀ bound found, describe bound form = .ok found → found = descriptor
  written : ∀ text found, Spells (pointsOf text) form → descriptorOf text = .ok found →
    found = descriptor

theorem describedAs_of_described
    {form : Expr}
    (described : ∀ bound found, describe bound form = .ok found → found = descriptor) :
    DescribedAs descriptor form where
  described := described
  written text found spells textDescribed := by
    obtain ⟨expr, reads, exprDescribed⟩ := bind_eq_ok_iff.mp textDescribed
    obtain rfl := spells.unique ⟨callLimit, reads⟩
    exact described callLimit found exprDescribed

/-- That those of several expressions that are described, wherever that is, are alike. -/
def AllDescribedAs
    (descriptor : Descriptor)
    (forms : List Expr) :
    Prop :=
  ∀ form ∈ forms, DescribedAs descriptor form

theorem described_of_two_le
    {expr : Expr}
    (described : describe bound expr = .ok descriptor) :
    ∃ room, bound = room + 2 :=
  Nat.exists_eq_add_of_le' (Accepted.two_le ⟨_, described⟩)

/-- Bars and brackets around three expressions, each described somewhere, agree. -/
theorem allDescribedAs_unionOf
    {firstBound secondBound thirdBound : Nat}
    {one two three : Descriptor}
    (isFirst : describe firstBound first = .ok one)
    (isSecond : describe secondBound second = .ok two)
    (isThird : describe thirdBound third = .ok three) :
    AllDescribedAs (.unionOf [one, two, three])
      [either (either first second) third, either first (either second third),
        .unionOf [first, second, third]] := by
  rw [AllDescribedAs, List.forall_mem_cons, List.forall_mem_cons,
    List.forall_mem_singleton]
  refine ⟨describedAs_of_described ?_, describedAs_of_described ?_,
    describedAs_of_described ?_⟩
  · intro bound found described
    obtain ⟨room, rfl⟩ := described_of_two_le described
    obtain ⟨_, _, isLeft, isRight, rfl⟩ := describe_either_eq_ok_iff.mp described
    obtain ⟨_, _, isInner, isMiddle, rfl⟩ := describe_either_eq_ok_iff.mp isLeft
    rw [describe_unique isInner isFirst, describe_unique isMiddle isSecond,
      describe_unique isRight isThird]
    simp [Descriptor.unionOf, Descriptor.alternatives]
  · intro bound found described
    obtain ⟨room, rfl⟩ := described_of_two_le described
    obtain ⟨_, _, isLeft, isRight, rfl⟩ := describe_either_eq_ok_iff.mp described
    obtain ⟨_, _, isMiddle, isInner, rfl⟩ := describe_either_eq_ok_iff.mp isRight
    rw [describe_unique isLeft isFirst, describe_unique isMiddle isSecond,
      describe_unique isInner isThird]
    simp [Descriptor.unionOf, Descriptor.alternatives]
  · intro bound found described
    obtain ⟨room, rfl⟩ := described_of_two_le described
    obtain ⟨_, formed, rfl⟩ := describe_unionOf_eq_ok_iff.mp described
    rcases formed with _ | ⟨isOne, _ | ⟨isTwo, _ | ⟨isThree, _ | _⟩⟩⟩
    rw [describe_unique isOne isFirst, describe_unique isTwo isSecond,
      describe_unique isThree isThird]

/-- The ways to write the union of an expression with nothing agree. -/
theorem allDescribedAs_optional
    {inner : Descriptor}
    (notTuple : item.isTuple = false)
    (isItem : describe bound item = .ok inner) :
    AllDescribedAs (.unionOf [inner, .nothing])
      [optional item, either item .none, .unionOf [item, .none]] := by
  have isNothing {room : Nat} {found : Descriptor}
      (described : describe room .none = .ok found) :
      found = .nothing :=
    describe_unique described (describe_none (Nat.le_refl 2))
  rw [AllDescribedAs, List.forall_mem_cons, List.forall_mem_cons,
    List.forall_mem_singleton]
  refine ⟨describedAs_of_described ?_, describedAs_of_described ?_,
    describedAs_of_described ?_⟩
  · intro bound found described
    obtain ⟨room, rfl⟩ := described_of_two_le described
    obtain ⟨_, isInner, rfl⟩ := (describe_optional_eq_ok_iff notTuple).mp described
    rw [describe_unique isInner isItem]
  · intro bound found described
    obtain ⟨room, rfl⟩ := described_of_two_le described
    obtain ⟨_, _, isInner, isNone, rfl⟩ := describe_either_eq_ok_iff.mp described
    rw [describe_unique isInner isItem, isNothing isNone]
  · intro bound found described
    obtain ⟨room, rfl⟩ := described_of_two_le described
    obtain ⟨_, formed, rfl⟩ := describe_unionOf_eq_ok_iff.mp described
    rcases formed with _ | ⟨isInner, _ | ⟨isNone, _ | _⟩⟩
    rw [describe_unique isInner isItem, isNothing isNone]

/-- That the ways to write the union of three expressions agree, and what they need. -/
structure UnionsAgree (first second third : Expr) : Prop where
  /-- Where these are described, a way that is accepted gives what they add together. -/
  described : ∀ firstBound secondBound thirdBound one two three,
    describe firstBound first = .ok one → describe secondBound second = .ok two →
      describe thirdBound third = .ok three →
        AllDescribedAs (.unionOf [one, two, three])
          [either (either first second) third, either first (either second third),
            .unionOf [first, second, third]]
  left_iff : ∀ bound, Accepted (bound + 2) (either (either first second) third) ↔
    Accepted bound first ∧ Accepted bound second ∧ Accepted (bound + 1) third
  right_iff : ∀ bound, Accepted (bound + 2) (either first (either second third)) ↔
    Accepted (bound + 1) first ∧ Accepted bound second ∧ Accepted bound third
  brackets_iff : ∀ bound, Accepted (bound + 2) (.unionOf [first, second, third]) ↔
    Accepted (itemRoom bound) first ∧ Accepted (itemRoom bound) second ∧
      Accepted (itemRoom bound) third

/-- That the ways to write the union of an expression with nothing agree, and what they need. -/
structure OptionalsAgree (item : Expr) : Prop where
  described : ∀ bound inner, describe bound item = .ok inner →
    AllDescribedAs (.unionOf [inner, .nothing])
      [optional item, either item .none, .unionOf [item, .none]]
  optional_iff : ∀ bound, Accepted (bound + 2) (optional item) ↔
    Accepted (bound + 1) item
  either_iff : ∀ bound, Accepted (bound + 2) (either item .none) ↔
    Accepted (bound + 1) item
  brackets_iff : ∀ bound, Accepted (bound + 2) (.unionOf [item, .none]) ↔
    Accepted (itemRoom bound) item

theorem accepted_and_none_iff :
    Accepted bound item ∧ Accepted bound .none ↔ Accepted bound item :=
  and_iff_left_of_imp fun accepted => ⟨_, describe_none accepted.two_le⟩

/--
The union of three expressions has one descriptor, however it is written, and so has the
union of an expression that is no tuple with nothing: what the parts add to it, wherever
it is accepted.  It is accepted exactly where its parts are, one call further in for each
bar around them, one for the brackets of an optional, and for those of a union as many as
the interpreter takes for an item.  No union stands directly inside another one in any
descriptor.
-/
theorem union_forms_agree :
    (∀ first second third, UnionsAgree first second third) ∧
      (∀ item : Expr, item.isTuple = false → OptionalsAgree item) ∧
      (∀ bound expr descriptor, describe bound expr = .ok descriptor →
        descriptor.IsFlat) ∧
      ∀ text descriptor, descriptorOf text = .ok descriptor → descriptor.IsFlat := by
  refine ⟨fun first second third => ?_, fun item notTuple => ?_,
    fun bound expr descriptor => isFlat_of_describe, fun text descriptor described => ?_⟩
  · exact
      { described := fun _ _ _ _ _ _ => allDescribedAs_unionOf
        left_iff := fun bound => by
          rw [accepted_either_iff, accepted_either_iff, and_assoc]
        right_iff := fun bound => by
          rw [accepted_either_iff, accepted_either_iff]
        brackets_iff := fun bound => by
          simp [accepted_unionOf_iff] }
  · exact
      { described := fun _ _ => allDescribedAs_optional notTuple
        optional_iff := fun bound => accepted_optional_iff notTuple
        either_iff := fun bound => by
          rw [accepted_either_iff, accepted_and_none_iff]
        brackets_iff := fun bound => by
          rw [accepted_unionOf_iff, List.forall_mem_cons, List.forall_mem_singleton,
            accepted_and_none_iff] }
  · obtain ⟨expr, -, described⟩ := bind_eq_ok_iff.mp described
    exact isFlat_of_describe described

/-! ## The limit -/

/-- A name, with another one behind each of so many bars. -/
def eitherChain : Nat → Expr
  | 0 => .name "a"
  | bars + 1 => either (eitherChain bars) (.name "a")

theorem accepted_eitherChain_iff {bars : Nat} :
    Accepted bound (eitherChain bars) ↔ bars + 2 ≤ bound := by
  induction bars generalizing bound with
  | zero => exact accepted_name_iff
  | succ bars inductionHypothesis =>
      cases bound with
      | zero => exact ⟨fun accepted => absurd accepted.two_le (by decide), by omega⟩
      | succ bound =>
          rw [eitherChain, accepted_either_iff, inductionHypothesis, accepted_name_iff]
          omega

end Agreement

/-- A union that just fits is accepted on the left of one bar, but not of two. -/
theorem long_union_fits_one_way :
    Accepted callLimit (eitherChain 993) ∧
      Accepted callLimit (.name "b") ∧
      Accepted callLimit (.name "c") ∧
      Accepted callLimit
        (either (eitherChain 993) (either (.name "b") (.name "c"))) ∧
      ¬ Accepted callLimit
        (either (either (eitherChain 993) (.name "b")) (.name "c")) ∧
      ¬ Accepted callLimit (.unionOf [eitherChain 993, .name "b", .name "c"]) := by
  have limit : callLimit = 994 + 2 := rfl
  have room : itemRoom 994 = 994 := rfl
  rw [limit, accepted_unionOf_iff, List.forall_mem_cons, room]
  simp only [accepted_either_iff, accepted_eitherChain_iff, accepted_name_iff]
  omega

end ApiTree.Hint
