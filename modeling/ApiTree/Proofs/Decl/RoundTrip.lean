import ApiTree.Proofs.Interp.Encoding

/-!
# Types that are written and read again

A type without slots is read back from its written form as it was, at every depth and
whatever its literals hold.  What is read from a value has no slots and only such targets
and literals as can be written, so writing and reading it once more changes nothing,
although the value may spell it in other ways: as the list of its fields, with a field
that is null or empty, with members that are no fields.
-/

namespace ApiTree.Json

/-! ## What readers get -/

/-- That whatever a reader gets has a property. -/
def Yields
    {ε α : Type}
    (holds : α → Prop)
    (reading : Except ε α) :
    Prop :=
  ∀ found, reading = .ok found → holds found

namespace Yields

variable
    {ε α β : Type}
    {holds : α → Prop}
    {holdsNext : β → Prop}

theorem error (failure : ε) : Yields holds (.error failure) := by
  rintro found ⟨⟩

theorem ok
    {found : α}
    (isSo : holds found) :
    Yields holds (.ok found : Except ε α) := by
  rintro same ⟨⟩
  exact isSo

theorem bind
    {first : Except ε α}
    {next : α → Except ε β}
    (yields : Yields holds first)
    (nextYields : ∀ found, holds found → Yields holdsNext (next found)) :
    Yields holdsNext (first >>= next) := by
  cases first with
  | error failure => exact error failure
  | ok found => exact nextYields found (yields found rfl)

/-- What is read first does not matter. -/
theorem after
    {first : Except ε α}
    {next : α → Except ε β}
    (nextYields : ∀ found, Yields holdsNext (next found)) :
    Yields holdsNext (first >>= next) := by
  have anything : Yields (fun _ => True) first := fun _ _ => True.intro
  exact anything.bind fun found _ => nextYields found

theorem map_some
    {reading : Except ε α}
    (yields : Yields holds reading) :
    Yields (fun found => ∀ content, found = some content → holds content)
      (reading.map some) := by
  cases reading with
  | error failure => exact error failure
  | ok content =>
      refine ok ?_
      rintro _ ⟨⟩
      exact yields content rfl

end Yields

/-! ## Values whose members are sorted -/

mutual

theorem Value.sorted_sorted : (value : Value) → value.sorted.sorted = value.sorted
  | .null => rfl
  | .bool _ => rfl
  | .number _ => rfl
  | .string _ => rfl
  | .array items => congrArg Value.array (Value.sortedItems_sortedItems items)
  | .object members => Hint.sorted_object (Value.sorted_of_mem_sortedMembers members)

theorem Value.sortedItems_sortedItems :
    (items : List Value) →
      Value.sortedItems (Value.sortedItems items) = Value.sortedItems items
  | [] => rfl
  | item :: rest =>
      congrArg₂ List.cons item.sorted_sorted (Value.sortedItems_sortedItems rest)

theorem Value.sorted_of_mem_sortedMembers :
    (members : List (String × Value)) →
      ∀ entry ∈ Value.sortedMembers members, entry.2.sorted = entry.2
  | [] => List.forall_mem_nil _
  | (_, content) :: rest =>
      List.forall_mem_cons.mpr
        ⟨content.sorted_sorted, Value.sorted_of_mem_sortedMembers rest⟩

end

/-- The contents of an object that is sorted are sorted. -/
theorem Value.sorted_of_mem_object
    {members : List (String × Value)}
    (sorted : (Value.object members).sorted = .object members) :
    ∀ entry ∈ members, entry.2.sorted = entry.2 := by
  intro entry isMember
  have same : sortMembers (Value.sortedMembers members) = members :=
    Value.object.inj sorted
  rw [← same] at isMember
  exact Value.sorted_of_mem_sortedMembers members entry (mem_of_mem_sortMembers isMember)

/-- The items of an array that is sorted are sorted. -/
theorem Value.sorted_of_mem_array
    {items : List Value}
    (sorted : (Value.array items).sorted = .array items) :
    ∀ item ∈ items, item.sorted = item := by
  have same : Value.sortedItems items = items := Value.array.inj sorted
  clear sorted
  induction items with
  | nil => exact List.forall_mem_nil _
  | cons first rest inductionHypothesis =>
      obtain ⟨firstSorted, restSorted⟩ := List.cons.inj same
      exact List.forall_mem_cons.mpr ⟨firstSorted, inductionHypothesis restSorted⟩

mutual

/-- What is read from a text has its members sorted at every depth. -/
theorem Tree.yields_sorted :
    (tree : Tree) → ∀ levels : Nat,
      Yields (fun value => value.sorted = value) (tree.readValue levels)
  | .null _ _, _ => .ok rfl
  | .bool _ _ _, _ => .ok rfl
  | .number (.ok _) _ _, _ => .ok rfl
  | .number (.error fault) _ _, _ => .error fault
  | .string (.ok _) _ _, _ => .ok rfl
  | .string (.error fault) _ _, _ => .error fault
  | .broken _ reading _, _ => .error reading
  | .array _ items _, levels => by
      rw [readValue]
      exact .after fun inner =>
        (Tree.yields_sortedItems items inner).bind fun values sorted =>
          .after fun _ => .ok (congrArg Value.array sorted)
  | .object _ members _, levels => by
      rw [readValue]
      exact .after fun inner =>
        (Tree.yields_sortedMembers members inner).bind fun named sorted =>
          .after fun _ => .ok (Hint.sorted_object sorted)

theorem Tree.yields_sortedItems :
    (items : List Tree) → ∀ levels : Nat,
      Yields (fun values => Value.sortedItems values = values)
        (Tree.readValues levels items)
  | [], _ => .ok rfl
  | item :: rest, levels => by
      rw [readValues]
      exact (item.yields_sorted levels).bind fun value sorted =>
        (Tree.yields_sortedItems rest levels).bind fun values othersSorted =>
          .ok (congrArg₂ List.cons sorted othersSorted)

theorem Tree.yields_sortedMembers :
    (members : List (Key × Tree)) → ∀ levels : Nat,
      Yields (fun named => ∀ entry ∈ named, entry.2.sorted = entry.2)
        (Tree.readMembers levels members)
  | [], _ => .ok (List.forall_mem_nil _)
  | (_, content) :: rest, levels => by
      rw [readMembers]
      exact .after fun name =>
        (content.yields_sorted levels).bind fun value sorted =>
          (Tree.yields_sortedMembers rest levels).bind fun values othersSorted =>
            .ok (List.forall_mem_cons.mpr ⟨sorted, othersSorted⟩)

end

theorem yields_sorted_decode (text : String) :
    Yields (fun value => value.sorted = value) (decode Decoder.value text) := by
  refine ((Document.of text).tree.yields_sorted levelLimit).bind fun value sorted => ?_
  split
  · exact .error _
  · exact .ok sorted

end ApiTree.Json

namespace ApiTree.Decl.TypeExpr

open ApiTree.Hint (readListMember_eq readAt_sortMembers readAt_tuple readAt_union)
open ApiTree.Json (Mismatch Value Yields yields_sorted_decode)

/-! ## Types that can be written -/

/-- That a target is a number of 32 bits, as the number of every declaration is. -/
def TargetFits (target : Option DeclId) : Prop :=
  ∀ id, target = some id → id ≤ idLimit

/--
That an expression loses nothing of its own when it is written: it waits in no slot, its
target is a number that can be read, and the members of its literal are sorted by name,
as those of every value are that was read.
-/
def WritableAlone : TypeExpr → Prop
  | .named _ target _ slot => slot = none ∧ TargetFits target
  | .literal value => value.sorted = value
  | .union _ => True
  | .tuple _ => True

/-- That nothing in several expressions is lost when they are written. -/
def AllWritable (types : List TypeExpr) : Prop :=
  ∀ part ∈ partsOfAll types, part.WritableAlone

/-- That nothing in an expression is lost when it is written. -/
def Writable (type : TypeExpr) : Prop :=
  ∀ part ∈ type.parts, part.WritableAlone

section Writable

variable
    {types : List TypeExpr}

theorem allWritable_nil : AllWritable [] :=
  List.forall_mem_nil _

theorem allWritable_cons_iff
    {first : TypeExpr} :
    AllWritable (first :: types) ↔ first.Writable ∧ AllWritable types :=
  List.forall_mem_append

theorem writable_named_iff
    {name : String}
    {target : Option DeclId}
    {slot : Option Nat} :
    (named name target types slot).Writable ↔
      (slot = none ∧ TargetFits target) ∧ AllWritable types :=
  List.forall_mem_cons

theorem writable_literal_iff
    {value : Value} :
    (literal value).Writable ↔ value.sorted = value :=
  List.forall_mem_singleton

theorem writable_union_iff : (union types).Writable ↔ AllWritable types :=
  List.forall_mem_cons.trans (iff_of_eq (true_and _))

theorem writable_tuple_iff : (tuple types).Writable ↔ AllWritable types :=
  List.forall_mem_cons.trans (iff_of_eq (true_and _))

end Writable

/-! ## Reading what was written -/

/-- A name is read from its members, whichever of target and arguments are written. -/
theorem readAt_named
    (nested : Bool)
    (name : String)
    {target : Option DeclId}
    {arguments : List TypeExpr}
    (fits : TargetFits target)
    (read : readAll (Value.sortedItems (jsonOfAll arguments)) = .ok arguments) :
    readAt nested (TypeExpr.named name target arguments none).json.sorted =
      .ok (.named name target arguments none) := by
  have listRead : readList (.array (Value.sortedItems (jsonOfAll arguments))) =
      .ok arguments := read
  rw [TargetFits] at fits
  cases target <;> cases arguments <;>
    · simp only [json, List.cons_append, List.nil_append, List.append_nil,
        Value.sortedMembers, Value.sorted, Value.ofNat]
      rw [readAt_sortMembers (by simp)]
      simp [readAt, require, readTag, Variant.ofName?, readMember?, readText, readTarget,
        readListMember_eq, List.lookup_cons, listRead, Except.map, bind, Except.bind, fits]

mutual

/-- A type that can be written is read from what is written. -/
theorem readAt_json_sorted
    (nested : Bool) :
    (type : TypeExpr) → type.Writable → readAt nested type.json.sorted = .ok type
  | .named name target arguments slot, writable => by
      obtain ⟨⟨rfl, fits⟩, argumentsWritable⟩ := writable_named_iff.mp writable
      have argumentsRead := readAll_jsonOfAll_sorted arguments argumentsWritable
      exact readAt_named nested name fits argumentsRead
  | .literal value, writable => by
      have sorted := writable_literal_iff.mp writable
      simp only [json, Value.sorted, Value.sortedMembers, sorted]
      rw [readAt_sortMembers (by simp)]
      rfl
  | .union members, writable => by
      have membersRead := readAll_jsonOfAll_sorted members (writable_union_iff.mp writable)
      simp only [json, Value.sorted, Value.sortedMembers]
      rw [readAt_sortMembers (by simp)]
      exact readAt_union nested membersRead
  | .tuple elements, writable => by
      have elementsRead :=
        readAll_jsonOfAll_sorted elements (writable_tuple_iff.mp writable)
      simp only [json, Value.sorted, Value.sortedMembers]
      rw [readAt_sortMembers (by simp)]
      exact readAt_tuple nested elementsRead

theorem readAll_jsonOfAll_sorted :
    (types : List TypeExpr) → AllWritable types →
      readAll (Value.sortedItems (jsonOfAll types)) = .ok types
  | [], _ => rfl
  | first :: rest, writable => by
      obtain ⟨firstWritable, restWritable⟩ := allWritable_cons_iff.mp writable
      rw [jsonOfAll, Value.sortedItems, readAll,
        readAt_json_sorted true first firstWritable,
        readAll_jsonOfAll_sorted rest restWritable]
      rfl

end

/-! ## Readers of parts -/

theorem yields_readTarget (value : Value) : Yields TargetFits (readTarget value) := by
  unfold readTarget
  split
  · exact .ok nofun
  · split
    · rename_i small
      refine .ok ?_
      rintro id ⟨⟩
      exact small.2
    · exact .error _
  · exact .error _

theorem yields_readMember?
    {α : Type}
    {holds : α → Prop}
    {reader : Value → Except Mismatch α}
    (yields : ∀ value, Yields holds (reader value))
    (name : String)
    (members : List (String × Value)) :
    Yields (fun found => ∀ content, found = some content → holds content)
      (readMember? reader name members) := by
  unfold readMember?
  split
  · exact (yields _).map_some
  · exact .ok nofun

theorem yields_require
    {α : Type}
    {holds : α → Prop}
    {found : Option α}
    (isSo : ∀ content, found = some content → holds content)
    (name : String) :
    Yields holds (require name found) := by
  cases found with
  | none => exact .error _
  | some content => exact .ok (isSo content rfl)

/-! ## Types that were read -/

mutual

/-- What is read from a value whose members are sorted can be written. -/
theorem yields_readAt
    (nested : Bool) :
    (value : Value) → value.sorted = value → Yields Writable (readAt nested value)
  | .object members, sorted => by
      have contents := Value.sorted_of_mem_object sorted
      rw [readAt]
      refine .after fun tag => .after fun variant => ?_
      cases variant with
      | named =>
          have targetFits := yields_readMember? yields_readTarget "target" members
          have argumentsWritable := yields_readListMember "typeArguments" members contents
          refine .after fun name => targetFits.bind fun target fits =>
            argumentsWritable.bind fun arguments writable => .after fun nameText =>
              .ok (writable_named_iff.mpr ⟨⟨rfl, ?_⟩, ?_⟩)
          · cases target with
            | none => exact nofun
            | some target => exact fits target rfl
          · cases arguments with
            | none => exact allWritable_nil
            | some arguments => exact writable arguments rfl
      | literal =>
          refine (yields_require ?_ "value").bind fun value valueSorted =>
            .ok (writable_literal_iff.mpr valueSorted)
          intro content isContent
          obtain ⟨front, back, rfl, -⟩ := List.lookup_eq_some_iff.mp isContent
          exact contents ("value", content) (by simp)
      | union =>
          exact (yields_readListMember "types" members contents).bind fun types writable =>
            (yields_require writable "types").bind fun members membersWritable =>
              .ok (writable_union_iff.mpr membersWritable)
      | tuple =>
          refine (yields_readListMember "elements" members contents).bind
            fun elements writable => .ok (writable_tuple_iff.mpr ?_)
          cases elements with
          | none => exact allWritable_nil
          | some elements => exact writable elements rfl
  | .array [], _ => by
      rw [readAt]
      exact .error _
  | .array [tag], _ => by
      rw [readAt]
      refine .after fun variant => ?_
      cases variant with
      | named | literal | union => exact .error _
      | tuple => exact .ok (writable_tuple_iff.mpr allWritable_nil)
  | .array (tag :: first :: rest), sorted => by
      have firstSorted := Value.sorted_of_mem_array sorted first (by simp)
      rw [readAt.eq_def]
      refine .after fun variant => ?_
      cases variant with
      | named =>
          match rest with
          | [] =>
              exact .after fun name =>
                .ok (writable_named_iff.mpr ⟨⟨rfl, nofun⟩, allWritable_nil⟩)
          | [target] =>
              exact .after fun name => (yields_readTarget target).bind fun id fits =>
                .ok (writable_named_iff.mpr ⟨⟨rfl, fits⟩, allWritable_nil⟩)
          | target :: arguments :: _ =>
              have argumentsSorted :=
                Value.sorted_of_mem_array sorted arguments (by simp)
              have argumentsWritable := yields_readList arguments argumentsSorted
              exact .after fun name => (yields_readTarget target).bind fun id fits =>
                argumentsWritable.bind fun types writable => .after fun _ =>
                  .ok (writable_named_iff.mpr ⟨⟨rfl, fits⟩, writable⟩)
      | literal => exact .after fun _ => .ok (writable_literal_iff.mpr firstSorted)
      | union =>
          exact (yields_readList first firstSorted).bind fun types writable =>
            .after fun _ => .ok (writable_union_iff.mpr writable)
      | tuple =>
          exact (yields_readList first firstSorted).bind fun types writable =>
            .after fun _ => .ok (writable_tuple_iff.mpr writable)
  | .null, _ | .bool _, _ | .number _, _ | .string _, _ => by
      rw [readAt]
      · exact .error _
      all_goals simp

theorem yields_readList :
    (value : Value) → value.sorted = value → Yields AllWritable (readList value)
  | .array items, sorted => by
      rw [readList]
      exact yields_readAll items (Value.sorted_of_mem_array sorted)
  | .object _, _ | .null, _ | .bool _, _ | .number _, _ | .string _, _ => by
      rw [readList]
      · exact .error _
      all_goals simp

theorem yields_readAll :
    (items : List Value) → (∀ item ∈ items, item.sorted = item) →
      Yields AllWritable (readAll items)
  | [], _ => .ok allWritable_nil
  | first :: rest, sorted => by
      obtain ⟨firstSorted, restSorted⟩ := List.forall_mem_cons.mp sorted
      rw [readAll]
      exact (yields_readAt true first firstSorted).bind fun type typeWritable =>
        (yields_readAll rest restSorted).bind fun types typesWritable =>
          .ok (allWritable_cons_iff.mpr ⟨typeWritable, typesWritable⟩)

theorem yields_readListMember
    (name : String) :
    (members : List (String × Value)) →
      (∀ entry ∈ members, entry.2.sorted = entry.2) →
        Yields (fun found => ∀ types, found = some types → AllWritable types)
          (readListMember name members)
  | [], _ => .ok nofun
  | (first, content) :: rest, sorted => by
      obtain ⟨contentSorted, restSorted⟩ := List.forall_mem_cons.mp sorted
      rw [readListMember]
      split
      · refine (yields_readList content contentSorted).bind fun types writable => .ok ?_
        rintro _ ⟨⟩
        exact writable
      · exact yields_readListMember name rest restSorted

end

/-! ## Round trips -/

/--
A type is read back from its written form exactly if nothing in it is lost when it is
written.  Whatever is read from a value is such a type, so it is read again from what is
written of it.  The values meant are those whose members are sorted, which all values
are that are read from a text.
-/
theorem types_survive_writing :
    (∀ type : TypeExpr, read type.json.sorted = .ok type ↔ type.Writable) ∧
      (∀ (value : Value) (type : TypeExpr),
        value.sorted = value → read value = .ok type →
          type.Writable ∧ read type.json.sorted = .ok type) ∧
      ∀ (text : String) (value : Value),
        Json.decode Json.Decoder.value text = .ok value → value.sorted = value := by
  refine ⟨fun type => ⟨?_, readAt_json_sorted false type⟩, ?_, ?_⟩
  · exact yields_readAt false type.json.sorted type.json.sorted_sorted type
  · intro value type sorted isRead
    have writable := yields_readAt false value sorted type isRead
    exact ⟨writable, readAt_json_sorted false type writable⟩
  · exact fun text => yields_sorted_decode text

/-- A type in list form, with tags by position and members that are no fields. -/
theorem types_survive_writing_of_list_form :
    ∃ (value : Value) (type : TypeExpr),
      value.sorted = value ∧ read value = .ok type ∧
        type.references = [("dict", some 7), ("str", none)] ∧
        type.json.sorted ≠ value ∧ read type.json.sorted = .ok type := by
  let settings : List (String × Value) := [("a", .null), ("b", .array [.bool true])]
  let union : List (String × Value) :=
    [("target", .null), ("type", .number (.integer 2)),
      ("types", .array
        [.array [.string "reference", .string "str", .null],
          .array [.number (.integer 1), .object settings]])]
  let value : Value := .array
    [.string "reference", .string "dict", .number (.integer 7),
      .array [.object union, .array [.string "tuple"]]]
  let type : TypeExpr := .named "dict" (some 7)
    [.union [.ofName "str", .literal (.object settings)], .tuple []] none
  have settingsSorted : Json.sortMembers settings = settings :=
    Json.Ascending.sortMembers_eq (by rw [Json.Ascending]; decide)
  have unionSorted : Json.sortMembers union = union :=
    Json.Ascending.sortMembers_eq (by rw [Json.Ascending]; decide)
  have sorted : value.sorted = value := by
    simp only [value, union, settings, Value.sorted, Value.sortedItems,
      Value.sortedMembers]
    rw [settingsSorted, unionSorted]
  have differs : type.json.sorted ≠ value := by
    simp [type, value, TypeExpr.json, Value.sorted]
  have isRead : read value = .ok type := rfl
  exact ⟨value, type, sorted, isRead, rfl, differs,
    (types_survive_writing.2.1 value type sorted isRead).2⟩

end ApiTree.Decl.TypeExpr
