import ApiTree.Proofs.Dump.Decoding
import ApiTree.Proofs.Json.LeavingOut

/-!
# Nulls in a dump

In every record of a dump, at every depth, a field that is null is read as if it were left
out.  Names are not, since they have to be there, nor are line numbers: no object is read
from a dump in which one is null, although it may be left out.
-/

namespace ApiTree.Dump

open ApiTree.Decl (Decorator)
open ApiTree.Json (Decoder Document Ending Key Record RecordField Tree levelLimit)
open ApiTree.Json.Decoder (PlacelessBelow)

/-! ## Records and what stands in them -/

/-- The kinds of records in a dump. -/
inductive RecordKind where
  | object
  | location
  | docstring
  | decorator
  | argument
  deriving DecidableEq

/-- A record, or a list of records. -/
inductive Form where
  | one (kind : RecordKind)
  | many (kind : RecordKind)

namespace RecordKind

/-- What is gathered while a record of a kind is decoded. -/
abbrev State : RecordKind → Type
  | .object => Draft
  | .location => Location
  | .docstring => String
  | .decorator => Decorator
  | .argument => Argument

/-- The record of a kind. -/
def record : (kind : RecordKind) → Record kind.State
  | .object => Draft.record (Decoder.list ApiObject.decoder)
  | .location => Location.record
  | .docstring => docstringRecord
  | .decorator => decoratorRecord
  | .argument => Argument.record

/-- What a record of a kind is decoded into. -/
abbrev Found : RecordKind → Type
  | .object => ApiObject
  | kind => kind.State

/-- The decoder of a kind. -/
def decoder : (kind : RecordKind) → Decoder kind.Found
  | .object => ApiObject.decoder
  | .location => Location.record.decoder
  | .docstring => docstringRecord.decoder
  | .decorator => decoratorRecord.decoder
  | .argument => Argument.record.decoder

/-- The names of the fields of a kind, in the order of the list form. -/
def fieldNames (kind : RecordKind) : List String :=
  kind.record.fields.map (·.name)

/-- What stands in a field, if that is a record or a list of records. -/
def form? : RecordKind → String → Option Form
  | .object, "location" => some (.one .location)
  | .object, "members" => some (.many .object)
  | .object, "decorations" => some (.many .decorator)
  | .object, "docstring" => some (.one .docstring)
  | .object, "args" => some (.many .argument)
  | _, _ => none

end RecordKind

namespace Form

/-- What a form is decoded into. -/
def Found : Form → Type
  | .one kind => kind.Found
  | .many kind => List kind.Found

/-- The decoder of a form. -/
def decoder : (form : Form) → Decoder form.Found
  | .one kind => kind.decoder
  | .many kind => Decoder.list kind.decoder

end Form

/--
That one tree is another in which a field that is null was left out: a field of a given
name, of a record of a given kind, somewhere in a record or in a list of records.
-/
inductive LeavesOut
    (kind : RecordKind)
    (name : String) :
    Form → Tree → Tree → Prop where
  | member
      {start nullStart nullStop : Nat}
      {front back : List (Key × Tree)}
      {key : Key}
      {ending : Ending}
      (isName : key.name = .ok name)
      (nowhereElse : ∀ member ∈ front ++ back, member.1.name ≠ .ok name) :
      LeavesOut kind name (.one kind)
        (.object start (front ++ (key, .null nullStart nullStop) :: back) ending)
        (.object start (front ++ back) ending)
  | lastItem
      {start nullStart nullStop : Nat}
      {items : List Tree}
      {ending : Ending}
      (isPlace : kind.fieldNames[items.length]? = some name) :
      LeavesOut kind name (.one kind)
        (.array start (items ++ [.null nullStart nullStop]) ending)
        (.array start items ending)
  | insideMember
      {outer : RecordKind}
      {outerName : String}
      {form : Form}
      {start : Nat}
      {front back : List (Key × Tree)}
      {key : Key}
      {one other : Tree}
      {ending : Ending}
      (isName : key.name = .ok outerName)
      (isForm : outer.form? outerName = some form)
      (inside : LeavesOut kind name form one other) :
      LeavesOut kind name (.one outer)
        (.object start (front ++ (key, one) :: back) ending)
        (.object start (front ++ (key, other) :: back) ending)
  | insidePlace
      {outer : RecordKind}
      {outerName : String}
      {form : Form}
      {start : Nat}
      {front back : List Tree}
      {one other : Tree}
      {ending : Ending}
      (isPlace : outer.fieldNames[front.length]? = some outerName)
      (isForm : outer.form? outerName = some form)
      (inside : LeavesOut kind name form one other) :
      LeavesOut kind name (.one outer)
        (.array start (front ++ one :: back) ending)
        (.array start (front ++ other :: back) ending)
  | insideItem
      {outer : RecordKind}
      {start : Nat}
      {front back : List Tree}
      {one other : Tree}
      {ending : Ending}
      (inside : LeavesOut kind name (.one outer) one other) :
      LeavesOut kind name (.many outer)
        (.array start (front ++ one :: back) ending)
        (.array start (front ++ other :: back) ending)

/-! ## The records of a dump -/

section Records

variable
    {σ α β : Type}
    {kind : RecordKind}
    {name : String}
    {form : Form}
    {levels : Nat}
    {one other tree : Tree}

/-- Fields that put what they read into different parts can be swapped. -/
theorem swaps_of_map
    {field otherField : RecordField σ}
    {content : Decoder α}
    {otherContent : Decoder β}
    {put : α → σ → σ}
    {otherPut : β → σ → σ}
    (reads : ∀ levels tree, field.read levels tree = (content levels tree).map put)
    (otherReads : ∀ levels tree,
      otherField.read levels tree = (otherContent levels tree).map otherPut)
    (apart : ∀ found otherFound state,
      put found (otherPut otherFound state) = otherPut otherFound (put found state)) :
    field.Swaps otherField := by
  constructor
  intro levels otherLevels tree otherTree change otherChange isChange isOther state
  rw [reads] at isChange
  rw [otherReads] at isOther
  cases found : content levels tree with
  | error => simp [found, Except.map] at isChange
  | ok value =>
      cases otherFound : otherContent otherLevels otherTree with
      | error => simp [otherFound, Except.map] at isOther
      | ok otherValue =>
          simp only [found, Except.map, Except.ok.injEq] at isChange
          simp only [otherFound, Except.map, Except.ok.injEq] at isOther
          rw [← isChange, ← isOther]
          exact apart value otherValue state

/-- The fields of a record change different parts of it. -/
theorem pairwise_swaps (kind : RecordKind) :
    kind.record.fields.Pairwise RecordField.Swaps := by
  cases kind
  all_goals
    dsimp only [RecordKind.record, Draft.record, Location.record, docstringRecord,
      decoratorRecord, Argument.record]
    simp only [List.pairwise_cons, List.forall_mem_cons]
    repeat' apply And.intro
  all_goals first
    | exact swaps_of_map (fun _ _ => rfl) (fun _ _ => rfl) fun _ _ _ => rfl
    | exact List.forall_mem_nil _
    | exact List.Pairwise.nil

theorem orderly_record (kind : RecordKind) : kind.record.Orderly where
  distinct := by cases kind <;> decide
  swap := pairwise_swaps kind

/-- What a field does with null: it is a name, refuses it, or reads it as if left out. -/
inductive MeetsNull
    (record : Record σ)
    (field : RecordField σ) :
    Prop where
  | name (isName : field.name = "name")
  | line
      (isLine : field.name = "lineno")
      (refuses : ∀ levels start stop, field.read.GetsNone levels (.null start stop))
  | absent
      (notLine : field.name ≠ "lineno")
      (absent : record.NullIsAbsent field)

theorem meetsNull (kind : RecordKind) :
    ∀ field ∈ kind.record.fields, MeetsNull kind.record field := by
  cases kind
  all_goals
    dsimp only [RecordKind.record, Draft.record, Location.record, docstringRecord,
      decoratorRecord, Argument.record]
    simp only [List.forall_mem_cons]
    repeat' apply And.intro
  all_goals first
    | exact .name rfl
    | exact .line rfl fun _ _ _ => rfl
    | exact .absent (by decide) ⟨rfl, _, rfl, fun _ _ _ => rfl⟩
    | exact List.forall_mem_nil _

theorem nullable_read_eq
    (name : String)
    (empty : α)
    (content : Decoder α)
    (put : α → σ → σ)
    (levels : Nat)
    (tree : Tree) :
    (nullable name empty content put).read levels tree =
      (Decoder.optional content levels tree).map fun found => put (found.getD empty) := by
  show ((Decoder.optional content levels tree).map _).map _ = _
  cases Decoder.optional content levels tree <;> rfl

/-- What stands in a field is decoded by its form, unless it is null. -/
theorem exists_field_of_form
    (isForm : kind.form? name = some form) :
    ∃ field ∈ kind.record.fields, field.name = name ∧
      ∃ change, ∀ levels tree,
        field.read levels tree =
          (Decoder.optional form.decoder levels tree).map change := by
  unfold RecordKind.form? at isForm
  split at isForm
  case h_6 => cases isForm
  all_goals obtain rfl := Option.some.inj isForm
  · exact ⟨_, List.mem_of_getElem? (i := 2) rfl, rfl, _, nullable_read_eq _ _ _ _⟩
  · exact ⟨_, List.mem_of_getElem? (i := 3) rfl, rfl, _, nullable_read_eq _ _ _ _⟩
  · exact ⟨_, List.mem_of_getElem? (i := 4) rfl, rfl, _, nullable_read_eq _ _ _ _⟩
  · exact ⟨_, List.mem_of_getElem? (i := 9) rfl, rfl, _, fun _ _ => rfl⟩
  · exact ⟨_, List.mem_of_getElem? (i := 11) rfl, rfl, _, nullable_read_eq _ _ _ _⟩

theorem getsSame_decoder (same : kind.record.decoder.GetsSame levels one other) :
    kind.decoder.GetsSame levels one other := by
  cases kind with
  | object =>
      rw [RecordKind.decoder, ApiObject.decoder_eq]
      exact same.map Draft.finish
  | location | docstring | decorator | argument => exact same

theorem getsNone_decoder (nothing : kind.record.decoder.GetsNone levels tree) :
    kind.decoder.GetsNone levels tree := by
  cases kind with
  | object =>
      rw [RecordKind.decoder, ApiObject.decoder_eq]
      exact nothing.map Draft.finish
  | location | docstring | decorator | argument => exact nothing

/-! ## Leaving out -/

theorem LeavesOut.not_null (leavesOut : LeavesOut kind name form one other) :
    (∀ start stop, one ≠ .null start stop) ∧ ∀ start stop, other ≠ .null start stop := by
  cases leavesOut <;> exact ⟨nofun, nofun⟩

variable
    {outer : RecordKind}
    {outerName : String}

/-- A field gets the same from what stands in it if the decoder of its form does. -/
theorem LeavesOut.exists_field_getsSame
    (leavesOut : LeavesOut kind name form one other)
    (isForm : outer.form? outerName = some form)
    (same : ∀ levels, form.decoder.GetsSame levels one other) :
    ∃ field ∈ outer.record.fields, field.name = outerName ∧
      ∀ levels, field.read.GetsSame levels one other := by
  obtain ⟨field, isField, isName, change, reads⟩ := exists_field_of_form isForm
  obtain ⟨notNull, otherNotNull⟩ := leavesOut.not_null
  refine ⟨field, isField, isName, fun levels => ?_⟩
  have optional : (Decoder.optional form.decoder).GetsSame levels one other := by
    rw [Decoder.GetsSame, Decoder.optional_eq_map notNull,
      Decoder.optional_eq_map otherNotNull]
    exact (same levels).map some
  rw [Decoder.GetsSame, reads, reads]
  exact optional.map change

/-- A null that is read as absent can be left out everywhere. -/
theorem LeavesOut.getsSame
    (leavesOut : LeavesOut kind name form one other)
    (isName : name ∈ kind.fieldNames)
    (notName : name ≠ "name")
    (notLine : name ≠ "lineno")
    (levels : Nat) :
    form.decoder.GetsSame levels one other := by
  obtain ⟨field, isField, rfl⟩ := List.mem_map.mp isName
  have absent : kind.record.NullIsAbsent field := by
    cases meetsNull kind field isField with
    | name isName => exact (notName isName).elim
    | line isLine => exact (notLine isLine).elim
    | absent _ absent => exact absent
  -- Around the null every record and every list gets the same from the same parts.
  induction leavesOut generalizing levels with
  | member isName nowhereElse =>
      refine getsSame_decoder (Record.getsSame_leaveOut_member (orderly_record kind) isField
        absent (congrArg Except.toOption isName) ?_ _ _ _ _ _)
      intro member isMember same
      have isOk : (Except.ok field.name : Except Json.Fault String).toOption =
          some field.name := rfl
      exact nowhereElse member isMember (Json.ok_of_toOption_eq (same.trans isOk.symm) rfl)
  | lastItem isPlace =>
      exact getsSame_decoder (Record.getsSame_leaveOut_item (orderly_record kind) absent
        ((orderly_record kind).getElem?_eq_some isField isPlace) _ _ _ _ _)
  | @insideMember outer _ _ _ _ _ _ _ _ _ isName isForm inside inductionHypothesis =>
      obtain ⟨outerField, isOuter, rfl, same⟩ :=
        inside.exists_field_getsSame isForm inductionHypothesis
      have isFound := (orderly_record outer).find?_eq_some isOuter
      refine getsSame_decoder (Record.getsSame_object (fun inner _ => ?_) rfl)
      exact Json.forall₂_replace (Record.GetsSameMember.refl _ inner)
        (.replace (congrArg Except.toOption isName) isFound (same inner)) _ _
  | @insidePlace outer _ _ _ _ _ _ _ _ isPlace isForm inside inductionHypothesis =>
      obtain ⟨outerField, isOuter, rfl, same⟩ :=
        inside.exists_field_getsSame isForm inductionHypothesis
      have isFound := (orderly_record outer).getElem?_eq_some isOuter isPlace
      exact getsSame_decoder (Record.getsSame_array
        (fun inner _ => .replace isFound (same inner) _) rfl)
  | insideItem _ inductionHypothesis =>
      refine Decoder.getsSame_list (fun inner _ => ?_) rfl
      exact Json.forall₂_replace (fun item => (rfl : Decoder.GetsSame _ _ item item))
        (inductionHypothesis inner) _ _

/-- A field gets nothing from what stands in it if the decoder of its form does not. -/
theorem LeavesOut.exists_field_getsNone
    (leavesOut : LeavesOut kind name form one other)
    (isForm : outer.form? outerName = some form)
    (nothing : ∀ levels, form.decoder.GetsNone levels one) :
    ∃ field ∈ outer.record.fields, field.name = outerName ∧
      ∀ levels, field.read.GetsNone levels one := by
  obtain ⟨field, isField, isName, change, reads⟩ := exists_field_of_form isForm
  refine ⟨field, isField, isName, fun levels => ?_⟩
  have optional : (Decoder.optional form.decoder).GetsNone levels one := by
    rw [Decoder.GetsNone, Decoder.optional_eq_map leavesOut.not_null.1]
    exact (nothing levels).map some
  rw [Decoder.GetsNone, reads]
  exact optional.map change

/-- The null of a line number is read nowhere. -/
theorem LeavesOut.getsNone
    {field : RecordField kind.State}
    (leavesOut : LeavesOut kind field.name form one other)
    (isField : field ∈ kind.record.fields)
    (isLine : field.name = "lineno")
    (levels : Nat) :
    form.decoder.GetsNone levels one := by
  have refusesNull : ∀ levels start stop,
      field.read.GetsNone levels (.null start stop) := by
    cases meetsNull kind field isField with
    | name isName => exact absurd (isName.symm.trans isLine) (by decide)
    | line _ refuses => exact refuses
    | absent notLine => exact (notLine isLine).elim
  induction leavesOut generalizing levels with
  | member isName =>
      have isFound := (orderly_record kind).find?_eq_some isField
      exact getsNone_decoder (Record.getsNone_object
        (List.mem_append_right _ List.mem_cons_self) (congrArg Except.toOption isName)
        isFound fun inner _ => refusesNull inner _ _)
  | lastItem isPlace =>
      have isFound := (orderly_record kind).getElem?_eq_some isField isPlace
      exact getsNone_decoder (Record.getsNone_array isFound
        (fun inner _ => refusesNull inner _ _) [] _)
  | @insideMember outer _ _ _ _ _ _ _ _ _ isName isForm inside inductionHypothesis =>
      obtain ⟨outerField, isOuter, rfl, nothing⟩ :=
        inside.exists_field_getsNone isForm inductionHypothesis
      have isFound := (orderly_record outer).find?_eq_some isOuter
      exact getsNone_decoder (Record.getsNone_object
        (List.mem_append_right _ List.mem_cons_self) (congrArg Except.toOption isName)
        isFound fun inner _ => nothing inner)
  | @insidePlace outer _ _ _ _ _ _ _ _ isPlace isForm inside inductionHypothesis =>
      obtain ⟨outerField, isOuter, rfl, nothing⟩ :=
        inside.exists_field_getsNone isForm inductionHypothesis
      have isFound := (orderly_record outer).getElem?_eq_some isOuter isPlace
      exact getsNone_decoder (Record.getsNone_array isFound
        (fun inner _ => nothing inner) _ _)
  | insideItem _ inductionHypothesis =>
      exact Decoder.getsNone_list (List.mem_append_right _ List.mem_cons_self)
        fun inner _ => inductionHypothesis inner

end Records

/-! ## Texts -/

/-- What is decoded from a text that is one value depends on no places in it. -/
theorem toOption_decode_eq_bare
    {text : String}
    (whole : (Document.of text).trailing = none) :
    (Json.decode ApiObject.decoder text).toOption =
      (ApiObject.decoder levelLimit (Document.of text).tree.bare).toOption := by
  have isDocument : Document.of text = ⟨(Document.of text).tree, none⟩ := by
    rw [← whole]
  have placeless : PlacelessBelow (levelLimit + 1) ApiObject.decoder :=
    ApiObject.compositional_decoder PlacelessBelow.compositional _
  rw [Json.Reads.toOption_decode_of_document _ isDocument]
  exact placeless levelLimit (Nat.lt_succ_self _) _

/--
A null in a field of a record, at any depth of an object, is read as if it were left out,
but for the null of a line number, with which no object is read.
-/
theorem nulls_read_as_absent_unless_line
    {kind : RecordKind}
    {name one other : String}
    (isName : name ∈ kind.fieldNames)
    (notName : name ≠ "name")
    (whole : (Document.of one).trailing = none)
    (otherWhole : (Document.of other).trailing = none)
    (leavesOut : LeavesOut kind name (.one .object) (Document.of one).tree.bare
      (Document.of other).tree.bare) :
    (Json.decode ApiObject.decoder one).toOption =
      if name = "lineno" then none
      else (Json.decode ApiObject.decoder other).toOption := by
  rw [toOption_decode_eq_bare whole, toOption_decode_eq_bare otherWhole]
  split
  · rename_i isLine
    obtain ⟨field, isField, rfl⟩ := List.mem_map.mp isName
    exact leavesOut.getsNone isField isLine levelLimit
  · rename_i notLine
    exact leavesOut.getsSame isName notName notLine levelLimit

theorem nulls_read_as_absent_unless_line_of_member :
    let one := "\x7b\"name\":\"m\",\"members\":[\x7b\"name\":\"f\",\"type\":null\x7d]\x7d"
    let other := "\x7b\"name\":\"m\",\"members\":[\x7b\"name\":\"f\"\x7d]\x7d"
    (Json.decode ApiObject.decoder one).toOption =
        (Json.decode ApiObject.decoder other).toOption ∧
      (Json.decode ApiObject.decoder other).toOption.isSome := by
  intro one other
  let named (name : String) : Key × Tree := (⟨.ok "name", 0⟩, .string (.ok name) 0 0)
  let isNull : Key × Tree := (⟨.ok "type", 0⟩, .null 0 0)
  let around (members : List (Key × Tree)) : Tree :=
    .object 0
      [named "m", (⟨.ok "members", 0⟩, .array 0 [.object 0 members (.closed 0)] (.closed 0))]
      (.closed 0)
  have isTree : (Document.of one).tree.bare = around [named "f", isNull] := by
    simp only [one, Document.of, String.reduceToList]
    with_unfolding_all rfl
  have isOther : (Document.of other).tree.bare = around [named "f"] := by
    simp only [other, Document.of, String.reduceToList]
    with_unfolding_all rfl
  have leavesOut : LeavesOut .object "type" (.one .object) (around [named "f", isNull])
      (around [named "f"]) :=
    @LeavesOut.insideMember _ _ .object "members" _ _ [named "m"] [] _ _ _ _ rfl rfl
      (@LeavesOut.insideItem _ _ _ _ [] [] _ _ _
        (@LeavesOut.member _ _ _ _ _ [named "f"] [] _ _ rfl (by simp [named])))
  have whole : (Document.of one).trailing.isNone ∧ (Document.of other).trailing.isNone := by
    decide +kernel
  rw [← isTree, ← isOther] at leavesOut
  refine ⟨?_, by decide +kernel⟩
  exact nulls_read_as_absent_unless_line (by decide) (by decide)
    (Option.isNone_iff_eq_none.mp whole.1) (Option.isNone_iff_eq_none.mp whole.2) leavesOut

/-- Of a line number a null is not read, although it may be left out. -/
theorem null_line_is_not_absent :
    ¬ ∀ (kind : RecordKind) (name one other : String),
      name ∈ kind.fieldNames → name ≠ "name" →
        (Document.of one).trailing = none → (Document.of other).trailing = none →
          LeavesOut kind name (.one .object) (Document.of one).tree.bare
              (Document.of other).tree.bare →
            (Json.decode ApiObject.decoder one).toOption =
              (Json.decode ApiObject.decoder other).toOption := by
  intro alwaysAbsent
  let one := "\x7b\"name\":\"f\",\"location\":\x7b\"lineno\":null\x7d\x7d"
  let other := "\x7b\"name\":\"f\",\"location\":\x7b\x7d\x7d"
  let isNamed : Key × Tree := (⟨.ok "name", 0⟩, .string (.ok "f") 0 0)
  let isNull : Key × Tree := (⟨.ok "lineno", 0⟩, .null 0 0)
  let around (members : List (Key × Tree)) : Tree :=
    .object 0 [isNamed, (⟨.ok "location", 0⟩, .object 0 members (.closed 0))] (.closed 0)
  have isTree : (Document.of one).tree.bare = around [isNull] := by
    simp only [one, Document.of, String.reduceToList]
    with_unfolding_all rfl
  have isOther : (Document.of other).tree.bare = around [] := by
    simp only [other, Document.of, String.reduceToList]
    with_unfolding_all rfl
  have leavesOut : LeavesOut .location "lineno" (.one .object) (around [isNull])
      (around []) :=
    @LeavesOut.insideMember _ _ .object "location" _ _ [isNamed] [] _ _ _ _ rfl rfl
      (@LeavesOut.member _ _ _ _ _ [] [] _ _ rfl (List.forall_mem_nil _))
  have whole : (Document.of one).trailing.isNone ∧ (Document.of other).trailing.isNone := by
    decide +kernel
  have outcomes : (Json.decode ApiObject.decoder one).toOption.isNone ∧
      (Json.decode ApiObject.decoder other).toOption.isSome := by
    decide +kernel
  rw [← isTree, ← isOther] at leavesOut
  have same := alwaysAbsent .location "lineno" one other (by decide) (by decide)
    (Option.isNone_iff_eq_none.mp whole.1) (Option.isNone_iff_eq_none.mp whole.2) leavesOut
  rw [← same, Option.isSome_iff_ne_none] at outcomes
  exact outcomes.2 (Option.isNone_iff_eq_none.mp outcomes.1)

end ApiTree.Dump
