import ApiTree.Dump.Object
import ApiTree.Proofs.Json.Bare

/-!
# Decoding scanned objects

The decoder of objects is the decoder of its own record, with a list of objects as the
members.  What is decoded from the tree of an object depends neither on the places of
its parts nor on the levels that may be opened, as long as they are enough.
-/

namespace ApiTree.Json

/-! ## Records at one level -/

variable
    {σ : Type}

/-- A field that is always read at one level. -/
def RecordField.atLevel
    (level : Nat)
    (field : RecordField σ) :
    RecordField σ :=
  { field with read := fun _ => field.read level }

namespace Record

/-- A record whose fields are always read at one level. -/
def atLevel
    (record : Record σ)
    (level : Nat) :
    Record σ :=
  { record with fields := record.fields.map (·.atLevel level) }

variable
    (record : Record σ)
    (level : Nat)

theorem lengthText_atLevel : (record.atLevel level).lengthText = record.lengthText := by
  simp only [lengthText, atLevel, List.length_map]

theorem missing?_atLevel (seen : List String) :
    (record.atLevel level).missing? seen = record.missing? seen := by
  simp only [missing?, atLevel, List.find?_map, Option.map_map]
  rfl

theorem find?_atLevel (name : String) :
    (record.atLevel level).fields.find? (·.name == name) =
      (record.fields.find? (·.name == name)).map (·.atLevel level) :=
  List.find?_map

theorem readMembers_atLevel
    (seen : List String)
    (state : σ)
    (members : List (Key × Tree)) :
    (record.atLevel level).readMembers level seen state members =
      record.readMembers level seen state members := by
  induction members generalizing seen state with
  | nil => rfl
  | cons member rest inductionHypothesis =>
      obtain ⟨key, content⟩ := member
      simp only [readMembers, inductionHypothesis, find?_atLevel]
      congr
      funext name
      cases record.fields.find? (·.name == name) with
      | none =>
          simp only [Option.map_none, atLevel, List.map_map]
          rfl
      | some field => rfl

theorem readItems_atLevel
    (ending : Ending)
    (count : Nat)
    (state : σ)
    (fields : List (RecordField σ))
    (items : List Tree) :
    (record.atLevel level).readItems level ending count state
        (fields.map (·.atLevel level)) items =
      record.readItems level ending count state fields items := by
  induction fields generalizing count state items with
  | nil => cases items <;> rfl
  | cons field fields inductionHypothesis =>
      cases items with
      | nil =>
          simp only [List.map_cons, readItems, inductionHypothesis, lengthText_atLevel]
          rfl
      | cons item items =>
          simp only [List.map_cons, readItems, inductionHypothesis]
          rfl

/-- The fields of a record are read at the level inside the record. -/
theorem decoder_atLevel (tree : Tree) :
    (record.atLevel (level + 1)).decoder (level + 2) tree =
      record.decoder (level + 2) tree := by
  cases tree with
  | object start members ending =>
      have membersRead :=
        readMembers_atLevel record (level + 1) [] record.initial members
      simp only [decoder, openLevel, bind, Except.bind, missing?_atLevel]
      rw [← membersRead]
      rfl
  | array start items ending =>
      exact readItems_atLevel record (level + 1) ending 0 record.initial record.fields items
  | null | bool | number | string | broken => rfl

end Record

end ApiTree.Json

namespace ApiTree.Dump

open ApiTree.Json (Decoder Record RecordField Tree)
open ApiTree.Json.Decoder (Compositional SteadyBelow)

/-! ## Objects -/

/-- The decoder of objects decodes a record with a list of objects as the members. -/
theorem ApiObject.decoder_eq :
    ApiObject.decoder = fun levels tree =>
      ((Draft.record (Decoder.list ApiObject.decoder)).decoder levels tree).map
        Draft.finish := by
  funext levels tree
  match levels with
  | 0 | 1 => cases tree <;> rfl
  | levels + 2 =>
      -- The members are read at the level inside, so their decoder matters there only.
      have sameMembers :
          Decoder.list (fun _ => ApiObject.decoder levels) (levels + 1) =
            Decoder.list ApiObject.decoder (levels + 1) := by
        funext members
        cases members with
        | array => cases levels <;> rfl
        | null | bool | number | string | object | broken => rfl
      have sameRecord (members : Decoder (List ApiObject)) :
          (Draft.record members).atLevel (levels + 1) =
            (Draft.record fun _ => members (levels + 1)).atLevel (levels + 1) :=
        rfl
      rw [ApiObject.decoder, ← Record.decoder_atLevel, sameRecord, sameMembers,
        ← sameRecord, Record.decoder_atLevel]

section Compositional

variable
    {holds : {α : Type} → Nat → Decoder α → Prop}
    {σ α : Type}
    {depth : Nat}
    {content : Decoder α}

theorem compositional_nullable
    (compositional : Compositional @holds)
    (isSo : holds depth content)
    (name : String)
    (empty : α)
    (put : α → σ → σ) :
    holds depth (nullable name empty content put).read :=
  compositional.map (compositional.map (compositional.optional isSo) (·.getD empty)) put

theorem compositional_maybe
    (compositional : Compositional @holds)
    (isSo : holds depth content)
    (name : String)
    (put : Option α → σ → σ) :
    holds depth (maybe name content put).read :=
  compositional.map (compositional.optional isSo) put

theorem compositional_required
    (compositional : Compositional @holds)
    (isSo : holds depth content)
    (name : String)
    (put : α → σ → σ) :
    holds depth (required name content put).read :=
  compositional.map isSo put

theorem compositional_optionalField
    (compositional : Compositional @holds)
    (isSo : holds depth content)
    (name : String)
    (put : α → σ → σ) :
    holds depth (optionalField name content put).read :=
  compositional.map isSo put

theorem compositional_location
    (compositional : Compositional @holds)
    (depth : Nat) :
    holds (depth + 1) Location.record.decoder := by
  refine compositional.ofRecord ?_
  simp only [Location.record, List.forall_mem_cons]
  exact ⟨compositional_nullable compositional (compositional.textAs depth _) _ _ _,
    compositional_optionalField compositional (compositional.natUpTo depth _ _) _ _,
    List.forall_mem_nil _⟩

theorem compositional_docstring
    (compositional : Compositional @holds)
    (depth : Nat) :
    holds (depth + 1) docstringRecord.decoder := by
  refine compositional.ofRecord ?_
  simp only [docstringRecord, List.forall_mem_cons]
  exact ⟨compositional_nullable compositional (compositional.textAs depth _) _ _ _,
    List.forall_mem_nil _⟩

theorem compositional_decorator
    (compositional : Compositional @holds)
    (depth : Nat) :
    holds (depth + 1) decoratorRecord.decoder := by
  refine compositional.ofRecord ?_
  have text : holds depth Decoder.text := compositional.textAs depth _
  simp only [decoratorRecord, List.forall_mem_cons]
  exact ⟨compositional_required compositional text _ _,
    compositional_maybe compositional text _ _, List.forall_mem_nil _⟩

theorem compositional_argument
    (compositional : Compositional @holds)
    (depth : Nat) :
    holds (depth + 1) Argument.record.decoder := by
  refine compositional.ofRecord ?_
  have text : holds depth Decoder.text := compositional.textAs depth _
  simp only [Argument.record, List.forall_mem_cons]
  exact ⟨compositional_required compositional text _ _,
    compositional_nullable compositional text _ _ _,
    compositional_maybe compositional text _ _, compositional_maybe compositional text _ _,
    List.forall_mem_nil _⟩

theorem compositional_draft
    (compositional : Compositional @holds)
    {members : Decoder (List ApiObject)}
    (isSo : holds depth members) :
    holds (depth + 1) (Draft.record members).decoder := by
  refine compositional.ofRecord ?_
  have text : holds depth Decoder.text := compositional.textAs depth _
  have texts : holds depth (Decoder.list Decoder.text) :=
    compositional.mono (compositional.list text) (Nat.le_succ _)
  have location : holds depth Location.record.decoder :=
    compositional.mono (compositional_location compositional depth) (Nat.le_succ _)
  have docstring : holds depth docstringRecord.decoder :=
    compositional.mono (compositional_docstring compositional depth) (Nat.le_succ _)
  have decorators : holds depth (Decoder.list decoratorRecord.decoder) :=
    compositional.mono (compositional.list (compositional_decorator compositional depth))
      (Nat.le_add_right _ 2)
  have arguments : holds depth (Decoder.list Argument.record.decoder) :=
    compositional.mono (compositional.list (compositional_argument compositional depth))
      (Nat.le_add_right _ 2)
  simp only [Draft.record, List.forall_mem_cons]
  exact ⟨compositional_required compositional text _ _,
    compositional_nullable compositional text _ _ _,
    compositional_nullable compositional location _ _ _,
    compositional_nullable compositional isSo _ _ _,
    compositional_nullable compositional decorators _ _ _,
    compositional_nullable compositional texts _ _ _,
    compositional_maybe compositional text _ _,
    compositional_maybe compositional text _ _,
    compositional_maybe compositional (compositional.value depth) _ _,
    compositional_maybe compositional docstring _ _,
    compositional_nullable compositional texts _ _ _,
    compositional_nullable compositional arguments _ _ _,
    List.forall_mem_nil _⟩

/-- What is handed on from parts to wholes holds of the decoder of objects. -/
theorem ApiObject.compositional_decoder
    (compositional : Compositional @holds)
    (depth : Nat) :
    holds depth ApiObject.decoder := by
  induction depth with
  | zero => exact compositional.zero _
  | succ depth inductionHypothesis =>
      have members : holds depth (Decoder.list ApiObject.decoder) :=
        compositional.mono (compositional.list inductionHypothesis) (Nat.le_succ _)
      rw [ApiObject.decoder_eq]
      exact compositional.map (compositional_draft compositional members) Draft.finish

end Compositional

/-- An object is decoded alike from trees that differ in their places only. -/
theorem ApiObject.toOption_decoder_eq
    {one other : Tree}
    (same : one.bare = other.bare)
    {levels otherLevels : Nat}
    (enough : one.nesting < levels)
    (enoughToo : one.nesting < otherLevels) :
    (ApiObject.decoder levels one).toOption =
      (ApiObject.decoder otherLevels other).toOption := by
  have sameNesting : one.nesting = other.nesting := by
    rw [← Tree.nesting_bare, same, Tree.nesting_bare]
  have steady : SteadyBelow (one.nesting + 1) ApiObject.decoder :=
    ApiObject.compositional_decoder SteadyBelow.compositional _
  rw [steady one levels otherLevels (Nat.lt_succ_self _) enough enoughToo, same,
    ← steady other otherLevels otherLevels (sameNesting ▸ Nat.lt_succ_self _)
      (sameNesting ▸ enoughToo) (sameNesting ▸ enoughToo)]

/-- No object is decoded from a cut tree. -/
theorem ApiObject.decoder_ne_ok_of_isCut
    {tree : Tree}
    (cut : tree.IsCut)
    (levels : Nat)
    (found : ApiObject) :
    ApiObject.decoder levels tree ≠ .ok found := by
  rw [ApiObject.decoder_eq]
  show Except.map _ _ ≠ _
  cases decoded : (Draft.record (Decoder.list ApiObject.decoder)).decoder levels tree with
  | error fault => exact nofun
  | ok draft => exact (Record.decoder_ne_ok_of_isCut cut levels draft decoded).elim

end ApiTree.Dump
