import ApiTree.Hint.Descriptor
import ApiTree.Proofs.Hint.Escapes
import ApiTree.Proofs.Json.Digits
import ApiTree.Proofs.Json.Reading

namespace ApiTree.Hint

open ApiTree.Json (Escaped IsNumeral Reads Value keptText? numberOf? sortMembers)
open ApiTree.Json.Reads (Entry Part arrayAt innerLevel? itemsAt joined membersAt
  objectAt)

/-!
# What is read back from written descriptors

A reader gets a value from a written constant or descriptor, or it gets none: infinite
numbers, numbers that are too large, halves of surrogate pairs and values that are
nested too deeply cannot be read.  What is read does not depend on what is written
around it.
-/

/-! ## Constants -/

/-- The name that is read back from the key of a dictionary. -/
def Constant.keyName? : Constant → Option String
  | .text points => keptText? (points.flatMap writePoint)
  | .real value => some value.text
  | .bool true => some "true"
  | .bool false => some "false"
  | .null => some "null"
  | .integer value => some (toString value)
  | _ => none

mutual

/-- What is read back from a constant where so many levels may be opened. -/
def Constant.valueAt : Constant → Nat → Option Value
  | .null, _ => some .null
  | .bool value, _ => some (.bool value)
  | .integer value, _ => (numberOf? (toString value).toList).map .number
  | .real (.finite value), _ =>
      (numberOf? (Real.layout.format value).toList).map .number
  | .text points, _ => (keptText? (points.flatMap writePoint)).map .string
  | .list items, levels | .tuple items, levels =>
      arrayAt (Constant.valuesAt items) levels
  | .dict entries, levels => objectAt (Constant.entriesAt entries) levels
  | .real (.infinite _), _ | .complex _ _, _ | .bytes, _ | .ellipsis, _ | .set, _ =>
      none

/-- What is read back from items. -/
def Constant.valuesAt : List Constant → Nat → Option (List Value)
  | [], _ => some []
  | first :: rest, levels => do
      let value ← first.valueAt levels
      let values ← Constant.valuesAt rest levels
      some (value :: values)

/-- What is read back from the entries of a dictionary. -/
def Constant.entriesAt :
    List (Constant × Constant) → Nat → Option (List (String × Value))
  | [], _ => some []
  | (key, value) :: rest, levels => do
      let name ← key.keyName?
      let content ← value.valueAt levels
      let members ← Constant.entriesAt rest levels
      some ((name, content) :: members)

end

mutual

/-- What is read back from a descriptor where so many levels may be opened. -/
def Descriptor.valueAt : Descriptor → Nat → Option Value
  | .reference name [], levels =>
      objectAt
        (fun _ => some [("type", .string "reference"), ("name", .string name)])
        levels
  | .reference name (first :: rest), levels =>
      objectAt
        (fun inner => do
          let values ← arrayAt (Descriptor.valuesAt (first :: rest)) inner
          some [("type", .string "reference"), ("name", .string name),
            ("typeArguments", values)])
        levels
  | .literal value, levels =>
      objectAt
        (fun inner => do
          let content ← value.valueAt inner
          some [("type", .string "literal"), ("value", content)])
        levels
  | .union members, levels =>
      objectAt
        (fun inner => do
          let values ← arrayAt (Descriptor.valuesAt members) inner
          some [("type", .string "union"), ("types", values)])
        levels
  | .tuple elements, levels =>
      objectAt
        (fun inner => do
          let values ← arrayAt (Descriptor.valuesAt elements) inner
          some [("type", .string "tuple"), ("elements", values)])
        levels

/-- What is read back from descriptors. -/
def Descriptor.valuesAt : List Descriptor → Nat → Option (List Value)
  | [], _ => some []
  | first :: rest, levels => do
      let value ← first.valueAt levels
      let values ← Descriptor.valuesAt rest levels
      some (value :: values)

end

/-! ## Lists and objects -/

theorem toList_writeText (points : List Nat) :
    (writeText points).toList = '"' :: (points.flatMap writePoint ++ ['"']) := by
  rw [writeText, String.toList_ofList]
  rfl

theorem reads_text (points : List Nat) :
    Reads (writeText points).toList fun _ =>
      (keptText? (points.flatMap writePoint)).map .string := by
  rw [toList_writeText]
  exact .string (escaped_points points)

/-- The parts that written items are. -/
theorem exists_parts
    {α : Type}
    {write? : α → Option String}
    {valueAt : α → Nat → Option Value}
    {items : List α}
    {texts : List String}
    (written : items.mapM write? = some texts)
    (reads : ∀ item ∈ items, ∀ text, write? item = some text →
      Reads text.toList (valueAt item)) :
    ∃ parts : List Part, parts.map Part.chars = texts.map String.toList ∧
      (∀ part ∈ parts, Reads part.chars part.valueAt) ∧
        ∀ levels, itemsAt parts levels =
          items.mapM fun item => valueAt item levels := by
  induction items generalizing texts with
  | nil =>
      cases written
      exact ⟨[], rfl, by simp, fun _ => rfl⟩
  | cons item items inductionHypothesis =>
      simp only [List.mapM_cons, Option.bind_eq_bind, Option.bind_eq_some_iff,
        Option.pure_def, Option.some.injEq] at written
      obtain ⟨text, itemWritten, others, othersWritten, rfl⟩ := written
      obtain ⟨parts, chars, partsRead, values⟩ :=
        inductionHypothesis othersWritten fun other member =>
          reads other (List.mem_cons_of_mem _ member)
      refine ⟨⟨text.toList, valueAt item⟩ :: parts, ?_, ?_, ?_⟩
      · rw [List.map_cons, List.map_cons, chars]
      · exact List.forall_mem_cons.mpr
          ⟨reads item List.mem_cons_self text itemWritten, partsRead⟩
      · intro levels
        rw [itemsAt, List.mapM_cons, List.mapM_cons, ← itemsAt, values]

/-- From written items the list of their values is read. -/
theorem reads_writeItems
    {α : Type}
    {write? : α → Option String}
    {valueAt : α → Nat → Option Value}
    {items : List α}
    {texts : List String}
    (written : items.mapM write? = some texts)
    (reads : ∀ item ∈ items, ∀ text, write? item = some text →
      Reads text.toList (valueAt item)) :
    Reads (Constant.writeItems texts).toList
      (arrayAt fun levels => items.mapM fun item => valueAt item levels) := by
  obtain ⟨parts, chars, partsRead, values⟩ := exists_parts written reads
  have split : (Constant.writeItems texts).toList =
      '[' :: (joined (parts.map Part.chars) ++ [']']) := by
    simp [Constant.writeItems, joined, chars]
  rw [split, ← funext values]
  exact .array parts partsRead

/-- The entries that written members are. -/
theorem exists_entries
    {α : Type}
    {write? : α → Option String}
    {readAt : α → Nat → Option (String × Value)}
    {items : List α}
    {texts : List String}
    (written : items.mapM write? = some texts)
    (readable : ∀ item ∈ items, ∀ text, write? item = some text →
      ∃ entry : Entry, entry.Readable ∧ text.toList = entry.chars ∧
        entry.readAt = readAt item) :
    ∃ entries : List Entry, entries.map Entry.chars = texts.map String.toList ∧
      (∀ entry ∈ entries, entry.Readable) ∧
        ∀ levels, membersAt entries levels =
          items.mapM fun item => readAt item levels := by
  induction items generalizing texts with
  | nil =>
      cases written
      exact ⟨[], rfl, by simp, fun _ => rfl⟩
  | cons item items inductionHypothesis =>
      simp only [List.mapM_cons, Option.bind_eq_bind, Option.bind_eq_some_iff,
        Option.pure_def, Option.some.injEq] at written
      obtain ⟨text, itemWritten, others, othersWritten, rfl⟩ := written
      obtain ⟨entries, chars, entriesReadable, members⟩ :=
        inductionHypothesis othersWritten fun other member =>
          readable other (List.mem_cons_of_mem _ member)
      obtain ⟨entry, entryReadable, entryChars, readAt_eq⟩ :=
        readable item List.mem_cons_self text itemWritten
      refine ⟨entry :: entries, ?_, ?_, ?_⟩
      · rw [List.map_cons, List.map_cons, chars, entryChars]
      · exact List.forall_mem_cons.mpr ⟨entryReadable, entriesReadable⟩
      · intro levels
        rw [membersAt, List.mapM_cons, List.mapM_cons, ← membersAt, members,
          readAt_eq]

/-- From written members the object of their values is read. -/
theorem reads_writeMembers
    {α : Type}
    {write? : α → Option String}
    {readAt : α → Nat → Option (String × Value)}
    {items : List α}
    {texts : List String}
    (written : items.mapM write? = some texts)
    (readable : ∀ item ∈ items, ∀ text, write? item = some text →
      ∃ entry : Entry, entry.Readable ∧ text.toList = entry.chars ∧
        entry.readAt = readAt item) :
    Reads (Constant.writeMembers texts).toList
      (objectAt fun levels => items.mapM fun item => readAt item levels) := by
  obtain ⟨entries, chars, entriesReadable, members⟩ :=
    exists_entries written readable
  have split : (Constant.writeMembers texts).toList =
      '\x7b' :: (joined (entries.map Entry.chars) ++ ['\x7d']) := by
    simp [Constant.writeMembers, joined, chars]
  rw [split, ← funext members]
  exact .object entries entriesReadable

/-- A member with a written name is read under that name. -/
theorem exists_entry_of_writeMember
    (name : String)
    {content : String}
    {valueAt : Nat → Option Value}
    (reads : Reads content.toList valueAt) :
    ∃ entry : Entry, entry.Readable ∧
      (Descriptor.writeMember name content).toList = entry.chars ∧
        entry.readAt = fun levels => (valueAt levels).map (name, ·) := by
  refine ⟨⟨(pointsOf name).flatMap writePoint, content.toList, valueAt⟩,
    ⟨escaped_points _, reads⟩, ?_, ?_⟩
  · simp [Descriptor.writeMember, toList_writeText, Entry.chars]
  · funext levels
    simp only [Entry.readAt, keptText?_pointsOf, Option.bind_eq_bind,
      Option.bind_some]
    cases valueAt levels <;> rfl

/-- A member of a given name, with its text and what is read from that. -/
structure Field where
  name : String
  content : String
  valueAt : Nat → Option Value

/-- From an object of fields the object of their values is read. -/
theorem reads_fields
    (fields : List Field)
    (reads : ∀ field ∈ fields, Reads field.content.toList field.valueAt) :
    Reads
      (Constant.writeMembers
        (fields.map fun field =>
          Descriptor.writeMember field.name field.content)).toList
      (objectAt fun levels =>
        fields.mapM fun field => (field.valueAt levels).map (field.name, ·)) := by
  have written : fields.mapM
      (fun field => some (Descriptor.writeMember field.name field.content)) =
        some (fields.map fun field =>
          Descriptor.writeMember field.name field.content) :=
    List.mapM_pure
  refine reads_writeMembers written ?_
  intro field isField text writes
  cases writes
  exact exists_entry_of_writeMember field.name (reads field isField)

/-! ## Written constants -/

/-- A written key is a literal, and its name is read back. -/
theorem Constant.exists_of_writeKey?
    {key : Constant}
    {written : String}
    (writes : key.writeKey? = some written) :
    ∃ body, written.toList = '"' :: (body ++ ['"']) ∧ Escaped body ∧
      keptText? body = key.keyName? := by
  have ofText (text : String) :
      ∃ body, (writeText (pointsOf text)).toList = '"' :: (body ++ ['"']) ∧
        Escaped body ∧ keptText? body = some text :=
    ⟨_, toList_writeText _, escaped_points _, keptText?_pointsOf text⟩
  cases key with
  | text points =>
      cases writes
      exact ⟨_, toList_writeText _, escaped_points _, rfl⟩
  | real value =>
      cases writes
      exact ofText value.text
  | bool value =>
      cases value <;> cases writes
      · exact ofText "false"
      · exact ofText "true"
  | null =>
      cases writes
      exact ofText "null"
  | integer value =>
      simp only [writeKey?, Option.map_eq_some_iff, writeInteger?] at writes
      obtain ⟨digits, written, rfl⟩ := writes
      split at written
      · cases written
      · cases written
        exact ofText (toString value)
  | complex | bytes | ellipsis | list | tuple | set | dict => cases writes

theorem Constant.writeAll?_eq_mapM (items : List Constant) :
    Constant.writeAll? items = items.mapM Constant.write? := by
  induction items with
  | nil => rfl
  | cons first rest inductionHypothesis =>
      rw [writeAll?, List.mapM_cons, inductionHypothesis]
      rfl

theorem Constant.valuesAt_eq_mapM
    (items : List Constant)
    (levels : Nat) :
    Constant.valuesAt items levels = items.mapM fun item => item.valueAt levels := by
  induction items with
  | nil => rfl
  | cons first rest inductionHypothesis =>
      rw [valuesAt, List.mapM_cons, inductionHypothesis]
      rfl

/-- What is read back from an entry of a dictionary. -/
def Constant.entryAt
    (entry : Constant × Constant)
    (levels : Nat) :
    Option (String × Value) := do
  let name ← entry.1.keyName?
  let content ← entry.2.valueAt levels
  some (name, content)

theorem Constant.entriesAt_eq_mapM
    (entries : List (Constant × Constant))
    (levels : Nat) :
    Constant.entriesAt entries levels =
      entries.mapM fun entry => Constant.entryAt entry levels := by
  induction entries with
  | nil => rfl
  | cons first rest inductionHypothesis =>
      obtain ⟨key, value⟩ := first
      rw [entriesAt, List.mapM_cons, inductionHypothesis, entryAt]
      cases key.keyName? with
      | none => rfl
      | some name => cases value.valueAt levels <;> rfl

/-- A written entry of a dictionary. -/
def Constant.writeNamed? (entry : Constant × Constant) : Option String := do
  let name ← entry.1.writeKey?
  let content ← entry.2.write?
  some (name ++ ": " ++ content)

theorem Constant.writeEntries?_eq_mapM
    (entries : List (Constant × Constant)) :
    Constant.writeEntries? entries = entries.mapM Constant.writeNamed? := by
  induction entries with
  | nil => rfl
  | cons first rest inductionHypothesis =>
      obtain ⟨key, value⟩ := first
      rw [writeEntries?, List.mapM_cons, inductionHypothesis, writeNamed?]
      cases key.writeKey? with
      | none => rfl
      | some name => cases value.write? <;> rfl

/-- A written entry is read as an entry. -/
theorem Constant.exists_entry_of_writeNamed?
    {entry : Constant × Constant}
    {text : String}
    (writes : Constant.writeNamed? entry = some text)
    (reads : ∀ content, entry.2.write? = some content →
      Reads content.toList entry.2.valueAt) :
    ∃ written : Entry, written.Readable ∧ text.toList = written.chars ∧
      written.readAt = Constant.entryAt entry := by
  simp only [writeNamed?, Option.bind_eq_bind, Option.bind_eq_some_iff,
    Option.some.injEq] at writes
  obtain ⟨name, nameWritten, content, contentWritten, rfl⟩ := writes
  obtain ⟨body, split, escaped, kept⟩ := exists_of_writeKey? nameWritten
  refine ⟨⟨body, content.toList, entry.2.valueAt⟩,
    ⟨escaped, reads content contentWritten⟩, ?_, ?_⟩
  · simp [split, Entry.chars]
  · funext levels
    rw [Entry.readAt, kept, entryAt]

mutual

/-- From a written constant its value is read. -/
theorem Constant.reads :
    ∀ (constant : Constant) {text : String}, constant.write? = some text →
      Reads text.toList constant.valueAt
  | .null, _, writes => by
      cases writes
      exact .null
  | .bool true, _, writes => by
      cases writes
      exact .boolTrue
  | .bool false, _, writes => by
      cases writes
      exact .boolFalse
  | .integer value, _, writes => by
      rw [write?, writeInteger?] at writes
      split at writes
      · cases writes
      · cases writes
        exact .numeral (Json.isNumeral_integer value)
  | .real (.finite value), _, writes => by
      cases writes
      exact .numeral (Json.isNumeral_format _ value)
  | .real (.infinite true), _, writes => by
      cases writes
      exact .negativeInfinity
  | .real (.infinite false), _, writes => by
      cases writes
      exact .infinity
  | .text points, _, writes => by
      cases writes
      exact reads_text points
  | .list items, _, writes => by
      rw [write?, Option.map_eq_some_iff, writeAll?_eq_mapM] at writes
      obtain ⟨texts, written, rfl⟩ := writes
      have itemsRead := reads_writeItems written (Constant.readsAll items)
      rw [← funext (valuesAt_eq_mapM items)] at itemsRead
      exact itemsRead
  | .tuple items, _, writes => by
      rw [write?, Option.map_eq_some_iff, writeAll?_eq_mapM] at writes
      obtain ⟨texts, written, rfl⟩ := writes
      have itemsRead := reads_writeItems written (Constant.readsAll items)
      rw [← funext (valuesAt_eq_mapM items)] at itemsRead
      exact itemsRead
  | .dict entries, _, writes => by
      rw [write?, Option.map_eq_some_iff, writeEntries?_eq_mapM] at writes
      obtain ⟨texts, written, rfl⟩ := writes
      have entriesRead := reads_writeMembers written fun entry isEntry _ writes =>
        Constant.exists_entry_of_writeNamed? writes
          (Constant.readsEntries entries entry isEntry)
      rw [← funext (entriesAt_eq_mapM entries)] at entriesRead
      exact entriesRead
  | .complex _ _, _, writes => by cases writes
  | .bytes, _, writes => by cases writes
  | .ellipsis, _, writes => by cases writes
  | .set, _, writes => by cases writes

/-- From each of several written constants its value is read. -/
theorem Constant.readsAll :
    ∀ (items : List Constant), ∀ item ∈ items, ∀ text,
      item.write? = some text → Reads text.toList item.valueAt
  | [], _, isItem => by cases isItem
  | first :: rest, item, isItem => by
      rcases List.mem_cons.mp isItem with isFirst | inRest
      · rw [isFirst]
        exact fun text => Constant.reads first
      · exact Constant.readsAll rest item inRest

/-- From each of several written contents of a dictionary its value is read. -/
theorem Constant.readsEntries :
    ∀ (entries : List (Constant × Constant)), ∀ entry ∈ entries, ∀ text,
      entry.2.write? = some text → Reads text.toList entry.2.valueAt
  | [], _, isEntry => by cases isEntry
  | (key, value) :: rest, entry, isEntry => by
      rcases List.mem_cons.mp isEntry with isFirst | inRest
      · rw [isFirst]
        exact fun text => Constant.reads value
      · exact Constant.readsEntries rest entry inRest

end

/-! ## Written descriptors -/

theorem Descriptor.writeAll?_eq_mapM (descriptors : List Descriptor) :
    Descriptor.writeAll? descriptors = descriptors.mapM Descriptor.write? := by
  induction descriptors with
  | nil => rfl
  | cons first rest inductionHypothesis =>
      rw [writeAll?, List.mapM_cons, inductionHypothesis]
      rfl

theorem Descriptor.valuesAt_eq_mapM
    (descriptors : List Descriptor)
    (levels : Nat) :
    Descriptor.valuesAt descriptors levels =
      descriptors.mapM fun descriptor => descriptor.valueAt levels := by
  induction descriptors with
  | nil => rfl
  | cons first rest inductionHypothesis =>
      rw [valuesAt, List.mapM_cons, inductionHypothesis]
      rfl

theorem reads_pointsOf (text : String) :
    Reads (writeText (pointsOf text)).toList fun _ => some (.string text) := by
  have reads := reads_text (pointsOf text)
  rw [keptText?_pointsOf] at reads
  exact reads

/-- A field that holds a text. -/
def Field.ofText (name text : String) : Field where
  name := name
  content := writeText (pointsOf text)
  valueAt := fun _ => some (.string text)

/-- A field that holds written descriptors. -/
def Field.ofDescriptors
    (name : String)
    (texts : List String)
    (descriptors : List Descriptor) :
    Field where
  name := name
  content := Constant.writeItems texts
  valueAt := arrayAt (Descriptor.valuesAt descriptors)

/-- That the value of a field is read from its content. -/
def Field.Reads (field : Field) : Prop :=
  Json.Reads field.content.toList field.valueAt

theorem Field.reads_ofText (name text : String) :
    (Field.ofText name text).Reads :=
  reads_pointsOf text

theorem Field.reads_ofDescriptors
    (name : String)
    {descriptors : List Descriptor}
    {texts : List String}
    (written : Descriptor.writeAll? descriptors = some texts)
    (reads : ∀ descriptor ∈ descriptors, ∀ text,
      descriptor.write? = some text → Json.Reads text.toList descriptor.valueAt) :
    (Field.ofDescriptors name texts descriptors).Reads := by
  rw [Descriptor.writeAll?_eq_mapM] at written
  have itemsRead := reads_writeItems written reads
  rw [← funext (Descriptor.valuesAt_eq_mapM descriptors)] at itemsRead
  exact itemsRead

/-- From a descriptor that is written as fields its value is read. -/
theorem Descriptor.reads_of_fields
    {descriptor : Descriptor}
    {text : String}
    {namedAt : Nat → Option (List (String × Value))}
    (fields : List Field)
    (reads : ∀ field ∈ fields, field.Reads)
    (writes : text = Constant.writeMembers
      (fields.map fun field => writeMember field.name field.content))
    (named : ∀ levels,
      (fields.mapM fun field => (field.valueAt levels).map (field.name, ·)) =
        namedAt levels)
    (valueAt_eq : descriptor.valueAt = objectAt namedAt) :
    Json.Reads text.toList descriptor.valueAt := by
  rw [writes, valueAt_eq, ← funext named]
  exact reads_fields fields reads

mutual

/-- From a written descriptor its value is read. -/
theorem Descriptor.reads :
    ∀ (descriptor : Descriptor) {text : String}, descriptor.write? = some text →
      Reads text.toList descriptor.valueAt
  | .reference name [], _, writes => by
      cases writes
      refine reads_of_fields [.ofText "type" "reference", .ofText "name" name] ?_
        rfl (fun _ => rfl) (funext fun _ => ?_)
      · simp [Field.reads_ofText]
      · rw [valueAt]
        rfl
  | .reference name (first :: rest), _, writes => by
      rw [write?, Option.bind_eq_bind, Option.bind_eq_some_iff] at writes
      obtain ⟨texts, written, writes⟩ := writes
      have listReads := Field.reads_ofDescriptors "typeArguments" written
        (Descriptor.readsAll (first :: rest))
      have notEmpty : texts.isEmpty = false := by
        rw [writeAll?, Option.bind_eq_bind, Option.bind_eq_some_iff] at written
        obtain ⟨text, -, written⟩ := written
        rw [Option.bind_eq_bind, Option.bind_eq_some_iff] at written
        obtain ⟨others, -, written⟩ := written
        cases written
        rfl
      rw [notEmpty] at writes
      cases writes
      refine reads_of_fields
        [.ofText "type" "reference", .ofText "name" name,
          .ofDescriptors "typeArguments" texts (first :: rest)] ?_ rfl
        (fun levels => ?_) (funext fun _ => by rw [valueAt])
      · simp [Field.reads_ofText, listReads]
      · simp only [List.mapM_cons, List.mapM_nil, Field.ofText, Field.ofDescriptors]
        cases arrayAt (valuesAt (first :: rest)) levels <;> rfl
  | .literal value, _, writes => by
      rw [write?, Option.bind_eq_bind, Option.bind_eq_some_iff] at writes
      obtain ⟨content, written, writes⟩ := writes
      cases writes
      have valueReads : (Field.mk "value" content value.valueAt).Reads :=
        value.reads written
      refine reads_of_fields
        [.ofText "type" "literal", ⟨"value", content, value.valueAt⟩] ?_ rfl
        (fun levels => ?_) (funext fun _ => by rw [valueAt])
      · simp [Field.reads_ofText, valueReads]
      · simp only [List.mapM_cons, List.mapM_nil, Field.ofText]
        cases value.valueAt levels <;> rfl
  | .union members, _, writes => by
      rw [write?, Option.bind_eq_bind, Option.bind_eq_some_iff] at writes
      obtain ⟨texts, written, writes⟩ := writes
      cases writes
      have listReads := Field.reads_ofDescriptors "types" written
        (Descriptor.readsAll members)
      refine reads_of_fields
        [.ofText "type" "union", .ofDescriptors "types" texts members] ?_ rfl
        (fun levels => ?_) (funext fun _ => by rw [valueAt])
      · simp [Field.reads_ofText, listReads]
      · simp only [List.mapM_cons, List.mapM_nil, Field.ofText, Field.ofDescriptors]
        cases arrayAt (valuesAt members) levels <;> rfl
  | .tuple elements, _, writes => by
      rw [write?, Option.bind_eq_bind, Option.bind_eq_some_iff] at writes
      obtain ⟨texts, written, writes⟩ := writes
      cases writes
      have listReads := Field.reads_ofDescriptors "elements" written
        (Descriptor.readsAll elements)
      refine reads_of_fields
        [.ofText "type" "tuple", .ofDescriptors "elements" texts elements] ?_ rfl
        (fun levels => ?_) (funext fun _ => by rw [valueAt])
      · simp [Field.reads_ofText, listReads]
      · simp only [List.mapM_cons, List.mapM_nil, Field.ofText, Field.ofDescriptors]
        cases arrayAt (valuesAt elements) levels <;> rfl

/-- From each of several written descriptors its value is read. -/
theorem Descriptor.readsAll :
    ∀ (descriptors : List Descriptor), ∀ descriptor ∈ descriptors, ∀ text,
      descriptor.write? = some text → Reads text.toList descriptor.valueAt
  | [], _, isOne => by cases isOne
  | first :: rest, descriptor, isOne => by
      rcases List.mem_cons.mp isOne with isFirst | inRest
      · rw [isFirst]
        exact fun text => Descriptor.reads first
      · exact Descriptor.readsAll rest descriptor inRest

end

end ApiTree.Hint
