import ApiTree.Decl.TypeExpr
import ApiTree.Proofs.Hint.Writing
import ApiTree.Proofs.Json.Members

namespace ApiTree.Hint

open ApiTree.Decl (TypeExpr)
open ApiTree.Json (Value lookup_sortMembers sortMembers)
open ApiTree.Json.Reads (arrayAt innerLevel? objectAt)

/-!
# The types that descriptors stand for

A value that is read back from a written descriptor is always a type: the one that has
the structure of the descriptor and, for each literal, what is read back from it.
-/

/-! ## Levels -/

/-- That what is read is read alike where more levels may be opened. -/
def Deepens
    {α : Type}
    (readAt : Nat → Option α) :
    Prop :=
  ∀ levels more value, levels ≤ more →
    readAt levels = some value → readAt more = some value

namespace Deepens

variable
    {α β : Type}

theorem const (outcome : Option α) : Deepens fun _ => outcome :=
  fun _ _ _ _ read => read

theorem bind
    {readAt : Nat → Option α}
    {next : α → Nat → Option β}
    (deepens : Deepens readAt)
    (nextDeepens : ∀ found, Deepens (next found)) :
    Deepens fun levels => (readAt levels).bind fun found => next found levels := by
  intro levels more value le read
  obtain ⟨found, first, last⟩ := Option.bind_eq_some_iff.mp read
  exact Option.bind_eq_some_iff.mpr
    ⟨found, deepens levels more found le first,
      nextDeepens found levels more value le last⟩

theorem innerLevel
    {levels more inner : Nat}
    (le : levels ≤ more)
    (opens : innerLevel? levels = some inner) :
    ∃ moreInner, innerLevel? more = some moreInner ∧ inner ≤ moreInner := by
  match levels, more, opens with
  | levels + 2, more + 2, rfl => exact ⟨more + 1, rfl, by omega⟩
  | _ + 2, 0, _ | _ + 2, 1, _ => omega

theorem array
    {valuesAt : Nat → Option (List Value)}
    (deepens : Deepens valuesAt) :
    Deepens (arrayAt valuesAt) := by
  intro levels more value le read
  obtain ⟨inner, opens, read⟩ := Option.bind_eq_some_iff.mp read
  obtain ⟨values, valuesRead, same⟩ := Option.bind_eq_some_iff.mp read
  obtain ⟨moreInner, moreOpens, le⟩ := innerLevel le opens
  rw [arrayAt, moreOpens, Option.bind_eq_bind, Option.bind_some,
    deepens inner moreInner values le valuesRead]
  exact same

theorem object
    {membersAt : Nat → Option (List (String × Value))}
    (deepens : Deepens membersAt) :
    Deepens (objectAt membersAt) := by
  intro levels more value le read
  obtain ⟨inner, opens, read⟩ := Option.bind_eq_some_iff.mp read
  obtain ⟨members, membersRead, same⟩ := Option.bind_eq_some_iff.mp read
  obtain ⟨moreInner, moreOpens, le⟩ := innerLevel le opens
  rw [objectAt, moreOpens, Option.bind_eq_bind, Option.bind_some,
    deepens inner moreInner members le membersRead]
  exact same

end Deepens

mutual

/-- A constant is read back alike where more levels may be opened. -/
theorem Constant.deepens : (constant : Constant) → Deepens constant.valueAt
  | .null => .const _
  | .bool _ => .const _
  | .integer _ => .const _
  | .real (.finite _) => .const _
  | .real (.infinite _) => .const _
  | .complex _ _ => .const _
  | .text _ => .const _
  | .bytes => .const _
  | .ellipsis => .const _
  | .list items => .array (Constant.deepensAll items)
  | .tuple items => .array (Constant.deepensAll items)
  | .set => .const _
  | .dict entries => .object (Constant.deepensEntries entries)

theorem Constant.deepensAll : (items : List Constant) → Deepens (valuesAt items)
  | [] => .const _
  | first :: rest =>
      .bind first.deepens fun value =>
        .bind (Constant.deepensAll rest) fun values => .const (some (value :: values))

theorem Constant.deepensEntries :
    (entries : List (Constant × Constant)) → Deepens (entriesAt entries)
  | [] => .const _
  | (key, value) :: rest =>
      .bind (.const key.keyName?) fun name =>
        .bind value.deepens fun content =>
          .bind (Constant.deepensEntries rest) fun members =>
            .const (some ((name, content) :: members))

end

/-! ## Types -/

/-- What is read back from a constant, if it is read at all. -/
def Constant.content (constant : Constant) : Value :=
  (constant.valueAt Json.levelLimit).getD .null

theorem Constant.content_eq
    {constant : Constant}
    {levels : Nat}
    {value : Value}
    (le : levels ≤ Json.levelLimit)
    (read : constant.valueAt levels = some value) :
    constant.content = value := by
  rw [content, constant.deepens levels Json.levelLimit value le read]
  rfl

mutual

/-- The type that a descriptor stands for. -/
def Descriptor.type : Descriptor → TypeExpr
  | .reference name arguments => .named name none (typesOf arguments) none
  | .literal value => .literal value.content
  | .union members => .union (typesOf members)
  | .tuple elements => .tuple (typesOf elements)

/-- The types that several descriptors stand for. -/
def Descriptor.typesOf : List Descriptor → List TypeExpr
  | [] => []
  | first :: rest => first.type :: typesOf rest

end

theorem Descriptor.typesOf_eq_map (descriptors : List Descriptor) :
    Descriptor.typesOf descriptors = descriptors.map Descriptor.type := by
  induction descriptors with
  | nil => rfl
  | cons first rest inductionHypothesis =>
      rw [typesOf, inductionHypothesis, List.map_cons]

/-! ## Reading types -/

theorem readListMember_eq
    (name : String)
    (members : List (String × Value)) :
    TypeExpr.readListMember name members =
      match members.lookup name with
      | some content => (TypeExpr.readList content).map some
      | none => .ok none := by
  induction members with
  | nil => rfl
  | cons first rest inductionHypothesis =>
      obtain ⟨firstName, content⟩ := first
      rw [TypeExpr.readListMember, Json.lookup_cons_eq]
      by_cases isFirst : firstName = name
      · rw [if_pos isFirst, if_pos isFirst.symm]
        change _ = (TypeExpr.readList content).map some
        cases TypeExpr.readList content <;> rfl
      · rw [if_neg isFirst, if_neg (Ne.symm isFirst), inductionHypothesis]

/-- The order of members does not matter to what is read from them. -/
theorem readAt_sortMembers
    {members : List (String × Value)}
    (distinct : (members.map Prod.fst).Nodup)
    (nested : Bool) :
    TypeExpr.readAt nested (.object (sortMembers members)) =
      TypeExpr.readAt nested (.object members) := by
  simp only [TypeExpr.readAt, TypeExpr.readMember?, readListMember_eq,
    lookup_sortMembers distinct]

theorem innerLevel?_le
    {levels inner : Nat}
    (opens : innerLevel? levels = some inner) :
    inner ≤ levels := by
  match levels, opens with
  | _ + 2, rfl => omega

theorem exists_of_objectAt
    {membersAt : Nat → Option (List (String × Value))}
    {levels : Nat}
    {value : Value}
    (read : objectAt membersAt levels = some value) :
    ∃ inner members, inner ≤ levels ∧ membersAt inner = some members ∧
      value = .object (sortMembers members) := by
  obtain ⟨inner, opens, read⟩ := Option.bind_eq_some_iff.mp read
  obtain ⟨members, membersRead, same⟩ := Option.bind_eq_some_iff.mp read
  exact ⟨inner, members, innerLevel?_le opens, membersRead,
    (Option.some.inj same).symm⟩

theorem exists_of_arrayAt
    {valuesAt : Nat → Option (List Value)}
    {levels : Nat}
    {value : Value}
    (read : arrayAt valuesAt levels = some value) :
    ∃ inner values, inner ≤ levels ∧ valuesAt inner = some values ∧
      value = .array values := by
  obtain ⟨inner, opens, read⟩ := Option.bind_eq_some_iff.mp read
  obtain ⟨values, valuesRead, same⟩ := Option.bind_eq_some_iff.mp read
  exact ⟨inner, values, innerLevel?_le opens, valuesRead,
    (Option.some.inj same).symm⟩

/-- The list that stands in an object behind other members. -/
theorem exists_of_list_member
    (front : List (String × Value))
    {field : String}
    {valuesAt : Nat → Option (List Value)}
    {levels : Nat}
    {value : Value}
    (read : objectAt
      (fun inner => do
        let values ← arrayAt valuesAt inner
        some (front ++ [(field, values)]))
      levels = some value) :
    ∃ inner values, inner ≤ levels ∧ valuesAt inner = some values ∧
      value = .object (sortMembers (front ++ [(field, .array values)])) := by
  obtain ⟨outer, members, outerLe, membersRead, rfl⟩ := exists_of_objectAt read
  obtain ⟨list, listRead, same⟩ := Option.bind_eq_some_iff.mp membersRead
  cases same
  obtain ⟨inner, values, innerLe, valuesRead, rfl⟩ := exists_of_arrayAt listRead
  exact ⟨inner, values, innerLe.trans outerLe, valuesRead, rfl⟩

theorem readAt_reference
    (nested : Bool)
    (name : String)
    {values : List Value}
    {types : List TypeExpr}
    (read : TypeExpr.readAll values = .ok types) :
    TypeExpr.readAt nested
        (.object [("type", .string "reference"), ("name", .string name),
          ("typeArguments", .array values)]) =
      .ok (.named name none types none) := by
  have listRead : TypeExpr.readList (.array values) = .ok types := read
  simp [TypeExpr.readAt, TypeExpr.require, TypeExpr.readTag, TypeExpr.Variant.ofName?,
    TypeExpr.readMember?, TypeExpr.readText, readListMember_eq, List.lookup_cons,
    listRead, Except.map, bind, Except.bind]

theorem readAt_union
    (nested : Bool)
    {values : List Value}
    {types : List TypeExpr}
    (read : TypeExpr.readAll values = .ok types) :
    TypeExpr.readAt nested
        (.object [("type", .string "union"), ("types", .array values)]) =
      .ok (.union types) := by
  have listRead : TypeExpr.readList (.array values) = .ok types := read
  simp [TypeExpr.readAt, TypeExpr.require, TypeExpr.readTag, TypeExpr.Variant.ofName?,
    readListMember_eq, List.lookup_cons, listRead, Except.map, bind, Except.bind]

theorem readAt_tuple
    (nested : Bool)
    {values : List Value}
    {types : List TypeExpr}
    (read : TypeExpr.readAll values = .ok types) :
    TypeExpr.readAt nested
        (.object [("type", .string "tuple"), ("elements", .array values)]) =
      .ok (.tuple types) := by
  have listRead : TypeExpr.readList (.array values) = .ok types := read
  simp [TypeExpr.readAt, TypeExpr.require, TypeExpr.readTag, TypeExpr.Variant.ofName?,
    readListMember_eq, List.lookup_cons, listRead, Except.map, bind, Except.bind]

mutual

/-- What is read back from a descriptor is its type. -/
theorem Descriptor.readAt_of_valueAt :
    (descriptor : Descriptor) →
      ∀ {levels : Nat} {value : Value} (nested : Bool),
        levels ≤ Json.levelLimit → descriptor.valueAt levels = some value →
          TypeExpr.readAt nested value = .ok descriptor.type
  | .reference name [], levels, value, nested, le, read => by
      rw [Descriptor.valueAt] at read
      obtain ⟨inner, members, -, isMembers, rfl⟩ := exists_of_objectAt read
      cases isMembers
      rw [readAt_sortMembers (by simp)]
      rfl
  | .reference name (first :: rest), levels, value, nested, le, read => by
      rw [Descriptor.valueAt] at read
      obtain ⟨inner, values, innerLe, areValues, rfl⟩ := exists_of_list_member
        [("type", .string "reference"), ("name", .string name)] read
      have types := Descriptor.readAll_of_valuesAt (first :: rest) (innerLe.trans le)
        areValues
      rw [readAt_sortMembers (by simp)]
      exact readAt_reference nested name types
  | .literal constant, levels, value, nested, le, read => by
      rw [Descriptor.valueAt] at read
      obtain ⟨inner, members, innerLe, isMembers, rfl⟩ := exists_of_objectAt read
      obtain ⟨content, isContent, same⟩ := Option.bind_eq_some_iff.mp isMembers
      cases same
      rw [readAt_sortMembers (by simp), Descriptor.type,
        constant.content_eq (innerLe.trans le) isContent]
      rfl
  | .union members, levels, value, nested, le, read => by
      rw [Descriptor.valueAt] at read
      obtain ⟨inner, values, innerLe, areValues, rfl⟩ :=
        exists_of_list_member [("type", .string "union")] read
      have types := Descriptor.readAll_of_valuesAt members (innerLe.trans le) areValues
      rw [readAt_sortMembers (by simp)]
      exact readAt_union nested types
  | .tuple elements, levels, value, nested, le, read => by
      rw [Descriptor.valueAt] at read
      obtain ⟨inner, values, innerLe, areValues, rfl⟩ :=
        exists_of_list_member [("type", .string "tuple")] read
      have types := Descriptor.readAll_of_valuesAt elements (innerLe.trans le) areValues
      rw [readAt_sortMembers (by simp)]
      exact readAt_tuple nested types

theorem Descriptor.readAll_of_valuesAt :
    (descriptors : List Descriptor) →
      ∀ {levels : Nat} {values : List Value},
        levels ≤ Json.levelLimit →
          Descriptor.valuesAt descriptors levels = some values →
            TypeExpr.readAll values = .ok (Descriptor.typesOf descriptors)
  | [], levels, values, le, read => by
      cases read
      rfl
  | first :: rest, levels, values, le, read => by
      obtain ⟨value, isValue, read⟩ := Option.bind_eq_some_iff.mp read
      obtain ⟨others, areValues, same⟩ := Option.bind_eq_some_iff.mp read
      cases same
      rw [TypeExpr.readAll, first.readAt_of_valueAt true le isValue,
        Descriptor.readAll_of_valuesAt rest le areValues]
      rfl

end

end ApiTree.Hint
