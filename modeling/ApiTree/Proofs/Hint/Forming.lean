import ApiTree.Hint.Descriptor
import Mathlib.Data.List.Forall2
import Mathlib.Data.Nat.Init

namespace ApiTree.Hint

/-!
# How descriptors are formed

The description of an expression calls that of its parts, with fewer nested calls left.
What it makes of the parts is listed here once.  Where more calls may be nested,
whatever was described before is described alike.
-/

theorem mapM_eq_ok_iff
    {ε α β : Type}
    {change : α → Except ε β}
    {items : List α}
    {results : List β} :
    items.mapM change = .ok results ↔
      List.Forall₂ (fun item result => change item = .ok result) items results := by
  induction items generalizing results with
  | nil =>
      rw [List.forall₂_nil_left_iff]
      exact ⟨fun same => (Except.ok.inj same).symm, fun same => same ▸ rfl⟩
  | cons first rest inductionHypothesis =>
      rw [List.mapM_cons, List.forall₂_cons_left_iff]
      simp only [← inductionHypothesis]
      cases change first with
      | error => simp [bind, Except.bind]
      | ok result =>
          cases rest.mapM change with
          | error => simp [bind, Except.bind]
          | ok others =>
              simp [bind, Except.bind, pure, Except.pure, eq_comm]

open ApiTree.Hint.Interpreter (itemRoom itemRoom_succ)

variable
    [Interpreter]
    {bound larger : Nat}
    {expr : Expr}
    {descriptor : Descriptor}

/-- That each item is described, in order, where so many calls may be nested. -/
def DescribesAll
    (bound : Nat) :
    List Expr → List Descriptor → Prop :=
  List.Forall₂ fun item found => describe bound item = .ok found

/-- The descriptor of a name that is applied to items between brackets. -/
inductive FormedApplied
    (bound : Nat)
    (name : String)
    (items : List Expr) :
    Descriptor → Prop where
  /-- The union of the first item and nothing. -/
  | optional
      {first : Expr} {rest : List Expr} {inner : Descriptor}
      (isOptional : name ∈ optionalNames)
      (startsWith : items = first :: rest)
      (formed : describe (bound + 1) first = .ok inner) :
      FormedApplied bound name items (.unionOf [inner, .nothing])
  /-- The union of all items. -/
  | union
      {members : List Descriptor}
      (notOptional : name ∉ optionalNames)
      (isUnion : name ∈ unionNames)
      (formed : DescribesAll (itemRoom bound) items members) :
      FormedApplied bound name items (.unionOf members)
  /-- The literals of the values of the items. -/
  | values
      {values : List Constant}
      (notOptional : name ∉ optionalNames)
      (notUnion : name ∉ unionNames)
      (isLiteral : name ∈ literalNames)
      (evaluates : items.mapM (literalValue (itemRoom bound)) = .ok values) :
      FormedApplied bound name items (.ofValues values)
  /-- The name with all items as its arguments. -/
  | reference
      {arguments : List Descriptor}
      (notOptional : name ∉ optionalNames)
      (notUnion : name ∉ unionNames)
      (notLiteral : name ∉ literalNames)
      (formed : DescribesAll (itemRoom bound) items arguments) :
      FormedApplied bound name items (.reference name arguments)

/-- What the descriptor of an expression is formed of, calls further in. -/
inductive Formed (bound : Nat) : Expr → Descriptor → Prop where
  /-- The expression that a string spells, described in its place. -/
  | spelled
      {points : List Nat} {inner : Expr} {descriptor : Descriptor}
      (spells : parsePoints bound points = .ok inner)
      (formed : describe bound inner = .ok descriptor) :
      Formed bound (.constant (.text points)) descriptor
  | nothing : Formed bound (.constant .null) .nothing
  | ellipsis : Formed bound (.constant .ellipsis) (.reference "..." [])
  /-- Any other constant, as far as it is a literal type. -/
  | literal
      {constant value : Constant}
      (notText : ∀ points, constant ≠ .text points)
      (notNothing : constant ≠ .null)
      (notEllipsis : constant ≠ .ellipsis)
      (evaluates : literalValue (bound + 1) (.constant constant) = .ok value) :
      Formed bound (.constant constant) (.literal value)
  | name (id : String) : Formed bound (.name id) (.reference id [])
  /-- A name with dots. -/
  | dotted
      {value : Expr} {field name : String}
      (isName : Expr.dottedName? (bound + 1) (.attribute value field) = some name) :
      Formed bound (.attribute value field) (.reference name [])
  | either
      {left right : Expr} {first second : Descriptor}
      (formedLeft : describe (bound + 1) left = .ok first)
      (formedRight : describe (bound + 1) right = .ok second) :
      Formed bound (.binary .bitOr left right) (.unionOf [first, second])
  | applied
      {value index : Expr} {name : String} {descriptor : Descriptor}
      (dotted : Expr.dottedName? (bound + 1) value = some name)
      (formed : FormedApplied bound name index.subscriptItems descriptor) :
      Formed bound (.subscript value index) descriptor
  | list
      {items : List Expr} {elements : List Descriptor}
      (formed : DescribesAll (itemRoom bound) items elements) :
      Formed bound (.list items) (.tuple elements)
  | tuple
      {items : List Expr} {elements : List Descriptor}
      (formed : DescribesAll (itemRoom bound) items elements) :
      Formed bound (.tuple items) (.tuple elements)

/-! ## Successful steps -/

/-- Items are described in the room that there is for them. -/
theorem describeItems_eq_ok_iff
    {items : List Expr}
    {found : List Descriptor} :
    items.mapM
        (if Interpreter.gathersInCall then describe bound else describe (bound + 1)) =
          .ok found ↔
      DescribesAll (itemRoom bound) items found := by
  rw [← apply_ite describe]
  exact mapM_eq_ok_iff

/-- What a name applied to items is described as. -/
theorem formedApplied_of_describe
    {value index : Expr}
    {name : String}
    (dotted : Expr.dottedName? (bound + 1) value = some name)
    (described : describe (bound + 2) (.subscript value index) = .ok descriptor) :
    FormedApplied bound name index.subscriptItems descriptor := by
  rw [describe, dotted] at described
  simp only [List.contains_iff_mem] at described
  split at described
  · rename_i isOptional
    split at described
    · cases described
    · rename_i first rest startsWith
      obtain ⟨inner, formed, isUnion⟩ := bind_eq_ok_iff.mp described
      cases isUnion
      exact .optional isOptional startsWith formed
  · rename_i notOptional
    split at described
    · rename_i isUnion
      obtain ⟨members, formed, same⟩ := bind_eq_ok_iff.mp described
      cases same
      exact .union notOptional isUnion (describeItems_eq_ok_iff.mp formed)
    · rename_i notUnion
      split at described
      · rename_i isLiteral
        obtain ⟨values, evaluates, same⟩ := bind_eq_ok_iff.mp described
        cases same
        exact .values notOptional notUnion isLiteral evaluates
      · rename_i notLiteral
        obtain ⟨arguments, formed, same⟩ := bind_eq_ok_iff.mp described
        cases same
        exact .reference notOptional notUnion notLiteral (describeItems_eq_ok_iff.mp formed)

/-- A string is described as what it spells. -/
theorem describe_text_eq_ok_iff {points : List Nat} :
    describe (bound + 2) (.constant (.text points)) = .ok descriptor ↔
      ∃ inner, parsePoints bound points = .ok inner ∧
        describe bound inner = .ok descriptor := by
  rw [describe]
  exact bind_eq_ok_iff

/-- A constant that is neither a string nor nothing nor an ellipsis is a literal. -/
theorem describe_constant
    {constant : Constant}
    (notText : ∀ points, constant ≠ .text points)
    (notNothing : constant ≠ .null)
    (notEllipsis : constant ≠ .ellipsis) :
    describe (bound + 2) (.constant constant) =
      (literalValue (bound + 1) (.constant constant)).map .literal := by
  rw [describe]
  · exact notText
  · exact notNothing
  · exact notEllipsis

theorem formed_of_describe
    (described : describe (bound + 2) expr = .ok descriptor) :
    Formed bound expr descriptor := by
  match expr, described with
  | .constant (.text points), described =>
      obtain ⟨inner, spells, formed⟩ := describe_text_eq_ok_iff.mp described
      exact .spelled spells formed
  | .constant .null, rfl => exact .nothing
  | .constant .ellipsis, rfl => exact .ellipsis
  | .constant (.bool _), described | .constant (.integer _), described
  | .constant (.real _), described | .constant (.complex _ _), described
  | .constant .bytes, described | .constant (.list _), described
  | .constant (.tuple _), described | .constant .set, described
  | .constant (.dict _), described =>
      rw [describe_constant (by simp) (by simp) (by simp)] at described
      obtain ⟨value, evaluates, rfl⟩ := map_eq_ok_iff.mp described
      exact .literal (by simp) (by simp) (by simp) evaluates
  | .name id, rfl => exact .name id
  | .attribute value field, described =>
      rw [describe] at described
      split at described
      · rename_i name dotted
        cases described
        exact .dotted dotted
      · cases described
  | .subscript value index, described =>
      cases dotted : Expr.dottedName? (bound + 1) value with
      | some name => exact .applied dotted (formedApplied_of_describe dotted described)
      | none =>
          rw [describe, dotted] at described
          cases described
  | .binary .bitOr left right, described =>
      rw [describe] at described
      obtain ⟨first, formedLeft, described⟩ := bind_eq_ok_iff.mp described
      obtain ⟨second, formedRight, same⟩ := bind_eq_ok_iff.mp described
      cases same
      exact .either formedLeft formedRight
  | .list items, described =>
      rw [describe] at described
      obtain ⟨elements, formed, same⟩ := bind_eq_ok_iff.mp described
      cases same
      exact .list (describeItems_eq_ok_iff.mp formed)
  | .tuple items, described =>
      rw [describe] at described
      obtain ⟨elements, formed, same⟩ := bind_eq_ok_iff.mp described
      cases same
      exact .tuple (describeItems_eq_ok_iff.mp formed)

theorem describe_of_formed
    (formed : Formed bound expr descriptor) :
    describe (bound + 2) expr = .ok descriptor := by
  cases formed with
  | spelled spells formed => exact describe_text_eq_ok_iff.mpr ⟨_, spells, formed⟩
  | nothing | ellipsis | name => rfl
  | literal notText notNothing notEllipsis evaluates =>
      rw [describe_constant notText notNothing notEllipsis, evaluates]
      rfl
  | dotted isName => rw [describe, isName]
  | either formedLeft formedRight =>
      rw [describe, formedLeft, formedRight]
      rfl
  | applied dotted formed =>
      rw [describe, dotted]
      cases formed with
      | optional isOptional startsWith formed =>
          simp only [List.contains_iff_mem, if_pos isOptional, startsWith, formed]
          rfl
      | union notOptional isUnion formed =>
          simp only [List.contains_iff_mem, if_neg notOptional, if_pos isUnion,
            describeItems_eq_ok_iff.mpr formed]
          rfl
      | values notOptional notUnion isLiteral evaluates =>
          simp only [List.contains_iff_mem, if_neg notOptional, if_neg notUnion,
            if_pos isLiteral, evaluates]
          rfl
      | reference notOptional notUnion notLiteral formed =>
          simp only [List.contains_iff_mem, if_neg notOptional, if_neg notUnion,
            if_neg notLiteral, describeItems_eq_ok_iff.mpr formed]
          rfl
  | list formed | tuple formed =>
      rw [describe, describeItems_eq_ok_iff.mpr formed]
      rfl

/-! ## More nested calls -/

theorem literalValue_extends (room : Nat) :
    Extends (literalValue room) (literalValue (room + 1)) := by
  intro expr result evaluates
  obtain ⟨constant, isValue, evaluates⟩ := bind_eq_ok_iff.mp evaluates
  have isValueNext : Interpreter.evaluate (room + 1 - 1) expr = .ok constant := by
    cases room with
    | zero => exact isValue
    | succ room => exact Interpreter.evaluate_extends room expr constant isValue
  rw [literalValue, isValueNext]
  exact evaluates

theorem parsePoints_extends (room : Nat) :
    Extends (parsePoints room) (parsePoints (room + 1)) := by
  intro points expr reads
  rw [parsePoints] at reads ⊢
  split at reads
  · exact (if_pos ‹_›).trans (Interpreter.parse_extends room _ expr reads)
  · cases reads

/-- What is described where some calls may be nested is described alike with another. -/
theorem describe_extends (bound : Nat) :
    Extends (describe bound) (describe (bound + 1)) := by
  induction bound using Nat.twoStepInduction with
  | zero | one =>
      intro expr descriptor described
      cases described
  | more bound extended extendedNext =>
      intro expr descriptor described
      have extendedItem :
          Extends (describe (itemRoom bound)) (describe (itemRoom (bound + 1))) := by
        rw [itemRoom_succ]
        exact Interpreter.itemRoom_cases
          (motive := fun room => Extends (describe room) (describe (room + 1)))
          extended extendedNext
      refine describe_of_formed ?_
      cases formed_of_describe described with
      | spelled spells formed =>
          exact .spelled (parsePoints_extends bound _ _ spells) (extended _ _ formed)
      | nothing => exact .nothing
      | ellipsis => exact .ellipsis
      | literal notText notNothing notEllipsis evaluates =>
          exact .literal notText notNothing notEllipsis
            (literalValue_extends _ _ _ evaluates)
      | name id => exact .name id
      | dotted isName => exact .dotted (Expr.dottedName?_succ isName)
      | either formedLeft formedRight =>
          exact .either (extendedNext _ _ formedLeft) (extendedNext _ _ formedRight)
      | applied dotted formed =>
          refine .applied (Expr.dottedName?_succ dotted) ?_
          cases formed with
          | optional isOptional startsWith formed =>
              exact .optional isOptional startsWith (extendedNext _ _ formed)
          | union notOptional isUnion formed =>
              exact .union notOptional isUnion (formed.imp extendedItem)
          | values notOptional notUnion isLiteral evaluates =>
              refine .values notOptional notUnion isLiteral ?_
              rw [itemRoom_succ]
              exact (literalValue_extends _).mapM evaluates
          | reference notOptional notUnion notLiteral formed =>
              exact .reference notOptional notUnion notLiteral (formed.imp extendedItem)
      | list formed => exact .list (formed.imp extendedItem)
      | tuple formed => exact .tuple (formed.imp extendedItem)

/-- An expression has one descriptor, however many calls may be nested. -/
theorem describe_unique
    {other : Descriptor}
    (described : describe bound expr = .ok descriptor)
    (describedElsewhere : describe larger expr = .ok other) :
    descriptor = other :=
  result_unique describe_extends described describedElsewhere

/-! ## Spelled expressions -/

/-- That code points spell an expression, if enough calls may be nested to read it. -/
def Spells
    (points : List Nat)
    (expr : Expr) :
    Prop :=
  ∃ room, parsePoints room points = .ok expr

theorem Spells.unique
    {points : List Nat}
    {found : Expr}
    (spells : Spells points expr)
    (spellsFound : Spells points found) :
    expr = found := by
  obtain ⟨room, reads⟩ := spells
  obtain ⟨foundRoom, readsFound⟩ := spellsFound
  exact result_unique parsePoints_extends reads readsFound

end ApiTree.Hint
