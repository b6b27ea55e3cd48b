import ApiTree.Proofs.Hint.Typed
import ApiTree.Proofs.Interp.Batch

namespace ApiTree.Decl.TypeExpr

/-!
# Types on the wire

A descriptor crosses to the side that reads types as a JSON value.  The type that is
read from that value has neither targets nor slots, since these are given out later
and by others, and it is written as the same value again: nothing that a descriptor
says is lost on the way, and nothing is added to it.
-/

/-! ## Settled types -/

mutual

/-- The expressions in an expression, itself first. -/
def parts : TypeExpr → List TypeExpr
  | .named name target arguments slot =>
      .named name target arguments slot :: partsOfAll arguments
  | .literal value => [.literal value]
  | .union members => .union members :: partsOfAll members
  | .tuple elements => .tuple elements :: partsOfAll elements

/-- The expressions in each of several expressions, in order. -/
def partsOfAll : List TypeExpr → List TypeExpr
  | [] => []
  | first :: rest => first.parts ++ partsOfAll rest

end

/-- That no name in an expression points at a declaration or waits in a slot. -/
def Settled (type : TypeExpr) : Prop :=
  ∀ part ∈ type.parts, part.target? = none ∧ part.slot? = none

end ApiTree.Decl.TypeExpr

namespace ApiTree.Hint

open ApiTree.Decl (TypeExpr)
open ApiTree.Json (Value sortMembers)
open ApiTree.Json.Reads (arrayAt objectAt)

mutual

/-- The type of a descriptor has neither targets nor slots. -/
theorem Descriptor.settled_type :
    (descriptor : Descriptor) → descriptor.type.Settled
  | .reference _ arguments =>
      List.forall_mem_cons.mpr ⟨⟨rfl, rfl⟩, Descriptor.settled_typesOf arguments⟩
  | .literal _ => List.forall_mem_singleton.mpr ⟨rfl, rfl⟩
  | .union members =>
      List.forall_mem_cons.mpr ⟨⟨rfl, rfl⟩, Descriptor.settled_typesOf members⟩
  | .tuple elements =>
      List.forall_mem_cons.mpr ⟨⟨rfl, rfl⟩, Descriptor.settled_typesOf elements⟩

theorem Descriptor.settled_typesOf :
    (descriptors : List Descriptor) →
      ∀ part ∈ TypeExpr.partsOfAll (Descriptor.typesOf descriptors),
        part.target? = none ∧ part.slot? = none
  | [] => List.forall_mem_nil _
  | first :: rest =>
      List.forall_mem_append.mpr
        ⟨first.settled_type, Descriptor.settled_typesOf rest⟩

end

/-! ## Values whose members are sorted -/

theorem sortedMembers_eq_self
    {members : List (String × Value)}
    (sorted : ∀ entry ∈ members, entry.2.sorted = entry.2) :
    Value.sortedMembers members = members := by
  induction members with
  | nil => rfl
  | cons first rest inductionHypothesis =>
      obtain ⟨firstSorted, restSorted⟩ := List.forall_mem_cons.mp sorted
      rw [Value.sortedMembers, inductionHypothesis restSorted, firstSorted]

/-- An object that was sorted is left as it is if its contents are. -/
theorem sorted_object
    {members : List (String × Value)}
    (sorted : ∀ entry ∈ members, entry.2.sorted = entry.2) :
    (Value.object (sortMembers members)).sorted = .object (sortMembers members) := by
  have contents : Value.sortedMembers (sortMembers members) = sortMembers members :=
    sortedMembers_eq_self fun entry isMember =>
      sorted entry (Json.mem_of_mem_sortMembers isMember)
  rw [Value.sorted, contents, (Json.ascending_sortMembers members).sortMembers_eq]

mutual

/-- What is read back from a constant has its members sorted at every depth. -/
theorem Constant.sorted_of_valueAt :
    (constant : Constant) → ∀ {levels : Nat} {value : Value},
      constant.valueAt levels = some value → value.sorted = value
  | .null, _, _, read => by
      cases read
      rfl
  | .bool _, _, _, read => by
      cases read
      rfl
  | .integer _, _, _, read => by
      obtain ⟨number, -, rfl⟩ := Option.map_eq_some_iff.mp read
      rfl
  | .real (.finite _), _, _, read => by
      obtain ⟨number, -, rfl⟩ := Option.map_eq_some_iff.mp read
      rfl
  | .text _, _, _, read => by
      obtain ⟨text, -, rfl⟩ := Option.map_eq_some_iff.mp read
      rfl
  | .list items, _, _, read => by
      obtain ⟨inner, values, -, areValues, rfl⟩ := exists_of_arrayAt read
      rw [Value.sorted, Constant.sorted_of_valuesAt items areValues]
  | .tuple items, _, _, read => by
      obtain ⟨inner, values, -, areValues, rfl⟩ := exists_of_arrayAt read
      rw [Value.sorted, Constant.sorted_of_valuesAt items areValues]
  | .dict entries, _, _, read => by
      obtain ⟨inner, members, -, areMembers, rfl⟩ := exists_of_objectAt read
      exact sorted_object (Constant.sorted_of_entriesAt entries areMembers)

theorem Constant.sorted_of_valuesAt :
    (items : List Constant) → ∀ {levels : Nat} {values : List Value},
      Constant.valuesAt items levels = some values → Value.sortedItems values = values
  | [], _, _, read => by
      cases read
      rfl
  | first :: rest, _, _, read => by
      obtain ⟨value, isValue, read⟩ := Option.bind_eq_some_iff.mp read
      obtain ⟨others, areValues, same⟩ := Option.bind_eq_some_iff.mp read
      cases same
      rw [Value.sortedItems, first.sorted_of_valueAt isValue,
        Constant.sorted_of_valuesAt rest areValues]

theorem Constant.sorted_of_entriesAt :
    (entries : List (Constant × Constant)) →
      ∀ {levels : Nat} {members : List (String × Value)},
        Constant.entriesAt entries levels = some members →
          ∀ entry ∈ members, entry.2.sorted = entry.2
  | [], _, _, read => by
      cases read
      exact List.forall_mem_nil _
  | (key, content) :: rest, _, _, read => by
      obtain ⟨name, -, read⟩ := Option.bind_eq_some_iff.mp read
      obtain ⟨value, isValue, read⟩ := Option.bind_eq_some_iff.mp read
      obtain ⟨others, areMembers, same⟩ := Option.bind_eq_some_iff.mp read
      cases same
      exact List.forall_mem_cons.mpr
        ⟨content.sorted_of_valueAt isValue, Constant.sorted_of_entriesAt rest areMembers⟩

end

/-! ## Types that are written again -/

mutual

/-- The type of a descriptor is written as the value that it was read from. -/
theorem Descriptor.sorted_json_type :
    (descriptor : Descriptor) → ∀ {levels : Nat} {value : Value},
      levels ≤ Json.levelLimit → descriptor.valueAt levels = some value →
        descriptor.type.json.sorted = value
  | .reference name [], levels, value, le, read => by
      rw [Descriptor.valueAt] at read
      obtain ⟨inner, members, -, isMembers, rfl⟩ := exists_of_objectAt read
      cases isMembers
      rfl
  | .reference name (first :: rest), levels, value, le, read => by
      rw [Descriptor.valueAt] at read
      obtain ⟨inner, values, innerLe, areValues, rfl⟩ := exists_of_list_member
        [("type", .string "reference"), ("name", .string name)] read
      have again := Descriptor.sorted_jsonOfAll_typesOf (first :: rest)
        (innerLe.trans le) areValues
      rw [← again]
      rfl
  | .literal constant, levels, value, le, read => by
      rw [Descriptor.valueAt] at read
      obtain ⟨inner, members, innerLe, isMembers, rfl⟩ := exists_of_objectAt read
      obtain ⟨content, isContent, same⟩ := Option.bind_eq_some_iff.mp isMembers
      cases same
      have sameContent := constant.content_eq (innerLe.trans le) isContent
      have again := constant.sorted_of_valueAt isContent
      rw [Descriptor.type, sameContent, TypeExpr.json, Value.sorted,
        Value.sortedMembers, Value.sortedMembers, Value.sortedMembers, again]
      rfl
  | .union members, levels, value, le, read => by
      rw [Descriptor.valueAt] at read
      obtain ⟨inner, values, innerLe, areValues, rfl⟩ :=
        exists_of_list_member [("type", .string "union")] read
      have again := Descriptor.sorted_jsonOfAll_typesOf members (innerLe.trans le)
        areValues
      rw [← again]
      rfl
  | .tuple elements, levels, value, le, read => by
      rw [Descriptor.valueAt] at read
      obtain ⟨inner, values, innerLe, areValues, rfl⟩ :=
        exists_of_list_member [("type", .string "tuple")] read
      have again := Descriptor.sorted_jsonOfAll_typesOf elements (innerLe.trans le)
        areValues
      rw [← again]
      rfl

theorem Descriptor.sorted_jsonOfAll_typesOf :
    (descriptors : List Descriptor) → ∀ {levels : Nat} {values : List Value},
      levels ≤ Json.levelLimit →
        Descriptor.valuesAt descriptors levels = some values →
          Value.sortedItems (TypeExpr.jsonOfAll (Descriptor.typesOf descriptors)) =
            values
  | [], _, _, _, read => by
      cases read
      rfl
  | first :: rest, levels, values, le, read => by
      obtain ⟨value, isValue, read⟩ := Option.bind_eq_some_iff.mp read
      obtain ⟨others, areValues, same⟩ := Option.bind_eq_some_iff.mp read
      cases same
      rw [Descriptor.typesOf, TypeExpr.jsonOfAll, Value.sortedItems,
        first.sorted_json_type le isValue,
        Descriptor.sorted_jsonOfAll_typesOf rest le areValues]

end

end ApiTree.Hint

namespace ApiTree.Interp

open ApiTree.Decl (TypeExpr)
open ApiTree.Hint (Descriptor descriptor? descriptorOf)
open ApiTree.Json (Value)

/-! ## Values that arrive -/

section Arrival

variable [Hint.Interpreter]

/--
That a value is what is read of the descriptor of a text, once this is written: by
itself, or as the answer to the text in the response to a batch.
-/
inductive Arrives (text : String) (value : Value) : Prop where
  | alone
      (descriptor : Descriptor)
      (written : String)
      (described : descriptorOf text = .ok descriptor)
      (writes : descriptor.write? = some written)
      (read : Json.decode Json.Decoder.value written = .ok value)
  | answered
      (texts : List String)
      (answers : Resolve.Answers)
      (ok : evaluator texts = .ok answers)
      (found : answers.lookup text = some value)

/-- An answer is what is read back from the descriptor of its text. -/
theorem exists_descriptor_of_answerTo?
    {text : String}
    {value : Value}
    (isAnswer : answerTo? text = some value) :
    ∃ descriptor, descriptorOf text = .ok descriptor ∧
      descriptor.valueAt (Json.levelLimit - 1) = some value := by
  obtain ⟨descriptor, described, answer⟩ := Option.bind_eq_some_iff.mp isAnswer
  obtain ⟨-, -, read⟩ := Option.bind_eq_some_iff.mp answer
  exact ⟨descriptor, eq_ok_iff_toOption.mpr described, read⟩

/-- What arrives is read back from the descriptor of its text. -/
theorem Arrives.exists_descriptor
    {text : String}
    {value : Value}
    (arrives : Arrives text value) :
    ∃ descriptor, descriptorOf text = .ok descriptor ∧
      ∃ levels ≤ Json.levelLimit, descriptor.valueAt levels = some value := by
  cases arrives with
  | alone descriptor written described writes read =>
      refine ⟨descriptor, described, Json.levelLimit, le_rfl, ?_⟩
      rw [← (descriptor.reads writes).toOption_decode_value, read]
      rfl
  | answered texts answers ok found =>
      cases evaluated texts with
      | answered others othersOk lookup_eq =>
          obtain rfl := Except.ok.inj (othersOk.symm.trans ok)
          rw [lookup_eq] at found
          split at found
          · obtain ⟨descriptor, described, read⟩ :=
              exists_descriptor_of_answerTo? found
            exact ⟨descriptor, described, _, Nat.sub_le _ _, read⟩
          · cases found
      | failed error fails =>
          rw [fails] at ok
          cases ok

/--
What arrives of a descriptor is read as a type without targets and slots, and that
type is written as the same value again, whose members are sorted as they are in
every value that was read.  So it does not matter whether the descriptor arrives by
itself or in a response.
-/
theorem types_are_written_as_they_arrived
    {text : String}
    {value : Value}
    (arrives : Arrives text value) :
    ∃ type, TypeExpr.read value = .ok type ∧ type.Settled ∧
      type.json.sorted = value ∧ ∀ other, Arrives text other → other = value := by
  obtain ⟨descriptor, described, levels, le, read⟩ := arrives.exists_descriptor
  have again := descriptor.sorted_json_type le read
  refine ⟨descriptor.type, descriptor.readAt_of_valueAt false le read,
    descriptor.settled_type, again, ?_⟩
  intro other otherArrives
  obtain ⟨_, sameText, otherLevels, otherLe, otherRead⟩ :=
    otherArrives.exists_descriptor
  obtain rfl := Except.ok.inj (described.symm.trans sameText)
  rw [← again, descriptor.sorted_json_type otherLe otherRead]

end Arrival

/-- A literal with names, spelled in a string, arrives with its names sorted. -/
theorem types_are_written_as_they_arrived_of_literal :
    ∃ value type,
      Arrives "list[\"Literal[\x7b'b': None, 'a': 1\x7d] | tuple[()]\"]" value ∧
        TypeExpr.read value = .ok type ∧ type.name? = some "list" ∧ type.Settled ∧
        type.json.sorted = value := by
  let text := "list[\"Literal[\x7b'b': None, 'a': 1\x7d] | tuple[()]\"]"
  let written :=
    "\x7b\"type\": \"reference\", \"name\": \"list\", \"typeArguments\": " ++
      "[\x7b\"type\": \"union\", \"types\": [\x7b\"type\": \"literal\", \"value\": " ++
      "\x7b\"b\": null, \"a\": 1\x7d\x7d, " ++
      "\x7b\"type\": \"reference\", \"name\": \"tuple\"\x7d]\x7d]\x7d"
  have isWritten : (descriptorOf text).toOption.bind (·.write?) = some written := by
    decide +kernel
  have named : ((Json.decode Json.Decoder.value written).toOption.bind fun value =>
      (TypeExpr.read value).toOption.bind (·.name?)) = some "list" := by
    decide +kernel
  obtain ⟨descriptor, described, writes⟩ := Option.bind_eq_some_iff.mp isWritten
  obtain ⟨value, isValue, named⟩ := Option.bind_eq_some_iff.mp named
  have arrives : Arrives text value :=
    .alone descriptor written (eq_ok_iff_toOption.mpr described) writes
      (eq_ok_iff_toOption.mpr isValue)
  obtain ⟨type, isType, settled, again, -⟩ := types_are_written_as_they_arrived arrives
  rw [isType] at named
  exact ⟨value, type, arrives, isType, named, settled, again⟩

end ApiTree.Interp
