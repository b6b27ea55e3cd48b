import ApiTree.Dump.Docstring
import ApiTree.Proofs.Json.Embedding
import ApiTree.Proofs.Json.Members

/-!
# Docstrings that are documents

A docstring is taken apart if it is a document, which may have members beside its list of
parts.  The texts of the parts make up the summary, and nothing of the sections is lost:
each is kept, in the order of the parts and by title within a part.  A parameter has the
description that was given last.  Any other docstring is its own summary.
-/

namespace ApiTree.Json

variable
    {α β : Type}

/-! ## Readers that succeed -/

theorem bind_eq_ok_iff
    {first : Except Fault α}
    {next : α → Except Fault β}
    {found : β} :
    (first >>= next) = .ok found ↔
      ∃ value, first = .ok value ∧ next value = .ok found := by
  cases first <;> simp [bind, Except.bind]

theorem map_eq_ok_iff
    {reading : Except Fault α}
    {change : α → β}
    {found : β} :
    reading.map change = .ok found ↔
      ∃ value, reading = .ok value ∧ change value = found := by
  cases reading <;> simp [Except.map]

theorem openLevel_eq_ok_iff {start levels inner : Nat} :
    openLevel start levels = .ok inner ↔ levels = inner + 1 ∧ 0 < inner := by
  rw [← Reads.innerLevel?_eq_some_iff, ← Reads.toOption_openLevel start levels]
  cases openLevel start levels <;> simp [Except.toOption]

theorem Ending.read_eq_ok_iff
    {ending : Ending}
    {stop : Nat} :
    ending.read = .ok stop ↔ ending = .closed stop := by
  cases ending <;> simp [Ending.read]

namespace Decoder

theorem each_eq_ok_iff
    {item : Tree → Except Fault α}
    {trees : List Tree}
    {values : List α} :
    each item trees = .ok values ↔
      List.Forall₂ (fun tree value => item tree = .ok value) trees values := by
  induction trees generalizing values with
  | nil => simp [each, eq_comm]
  | cons tree rest inductionHypothesis =>
      simp only [each, bind_eq_ok_iff, inductionHypothesis, List.forall₂_cons_left_iff,
        Except.ok.injEq]
      constructor
      · rintro ⟨first, isFirst, others, areOthers, rfl⟩
        exact ⟨first, others, isFirst, areOthers, rfl⟩
      · rintro ⟨first, others, isFirst, areOthers, rfl⟩
        exact ⟨first, isFirst, others, areOthers, rfl⟩

theorem eachMember_eq_ok_iff
    {content : Tree → Except Fault α}
    {members : List (Key × Tree)}
    {named : List (String × α)} :
    eachMember content members = .ok named ↔
      List.Forall₂
        (fun member entry =>
          member.1.name = .ok entry.1 ∧ content member.2 = .ok entry.2)
        members named := by
  induction members generalizing named with
  | nil => simp [eachMember, eq_comm]
  | cons member rest inductionHypothesis =>
      simp only [eachMember, bind_eq_ok_iff, inductionHypothesis,
        List.forall₂_cons_left_iff, Except.ok.injEq]
      constructor
      · rintro ⟨name, isName, first, isFirst, others, areOthers, rfl⟩
        exact ⟨(name, first), others, ⟨isName, isFirst⟩, areOthers, rfl⟩
      · rintro ⟨⟨name, first⟩, others, ⟨isName, isFirst⟩, areOthers, rfl⟩
        exact ⟨name, isName, first, isFirst, others, areOthers, rfl⟩

/-- Closed lists are decoded, item by item. -/
theorem list_eq_ok_iff
    {item : Decoder α}
    {levels : Nat}
    {tree : Tree}
    {values : List α} :
    list item (levels + 2) tree = .ok values ↔
      ∃ start items stop, tree = .array start items (.closed stop) ∧
        List.Forall₂ (fun tree value => item (levels + 1) tree = .ok value)
          items values := by
  cases tree with
  | array start items ending =>
      simp only [list, bind_eq_ok_iff, openLevel, Except.ok.injEq, each_eq_ok_iff,
        Ending.read_eq_ok_iff, Tree.array.injEq]
      constructor
      · rintro ⟨_, rfl, found, decoded, stop, isClosed, rfl⟩
        exact ⟨start, items, stop, ⟨rfl, rfl, isClosed⟩, decoded⟩
      · rintro ⟨_, _, stop, ⟨rfl, rfl, isClosed⟩, decoded⟩
        exact ⟨_, rfl, values, decoded, stop, isClosed, rfl⟩
  | null | bool | number | string | object | broken => simp [list]

/-- The lists of any values are those that are read as values. -/
theorem list_value_eq_ok_iff
    {levels : Nat}
    {tree : Tree}
    {values : List Value} :
    list value levels tree = .ok values ↔ tree.readValue levels = .ok (.array values) := by
  have sameItems (inner : Nat) (items : List Tree) :
      each (value inner) items = Tree.readValues inner items := by
    induction items with
    | nil => rfl
    | cons item items inductionHypothesis =>
        rw [each, Tree.readValues, inductionHypothesis]
        rfl
  cases tree with
  | array => simp [list, Tree.readValue, sameItems, bind_eq_ok_iff]
  | object => simp [list, Tree.readValue, bind_eq_ok_iff]
  | number read => cases read <;> simp [list, Tree.readValue, Except.map]
  | string read => cases read <;> simp [list, Tree.readValue, Except.map]
  | null | bool | broken => simp [list, Tree.readValue]

end Decoder

end ApiTree.Json

namespace ApiTree.Dump

open ApiTree.Json (Decoder Key Spells Tree Value levelLimit sortMembers)
open ApiTree.Text (trim)

/-! ## Documents -/

/-- How many levels may still be opened inside a section of a document. -/
def sectionLevels : Nat := levelLimit - 3

/-- That a member of a part is a titled list of values. -/
structure IsTitled
    (member : Key × Tree)
    (titled : String × List Value) :
    Prop where
  title : member.1.name = .ok titled.1
  items : member.2.readValue sectionLevels = .ok (.array titled.2)

/--
That a tree is a part of a document: a text, or an object of titled lists.  Of several
lists of one title the last stands.
-/
inductive IsPart : Tree → DocPart → Prop where
  | text
      (content : String)
      (start stop : Nat) :
      IsPart (.string (.ok content) start stop) (.text content)
  | sections
      (start stop : Nat)
      {members : List (Key × Tree)}
      {titled : List (String × List Value)}
      (areTitled : List.Forall₂ IsTitled members titled) :
      IsPart (.object start members (.closed stop))
        (.sections ((sortMembers titled).map fun entry => ⟨entry.1, entry.2⟩))

/-- That a tree is a list of parts. -/
inductive AreParts : Tree → List DocPart → Prop where
  | list
      (start stop : Nat)
      {items : List Tree}
      {parts : List DocPart}
      (areParts : List.Forall₂ IsPart items parts) :
      AreParts (.array start items (.closed stop)) parts

/-- That a member stands beside the list of parts: it has another name and is skipped. -/
structure IsAside (member : Key × Tree) : Prop where
  otherName : ∃ name, member.1.name = .ok name ∧ name ≠ "content"
  skips : member.2.skip = .ok ()

/--
That a tree is a document: an object with exactly one list of parts, under its name, or a
list that holds nothing else.
-/
inductive IsDocument : Tree → List DocPart → Prop where
  | object
      (start stop : Nat)
      {front back : List (Key × Tree)}
      {key : Key}
      {content : Tree}
      {parts : List DocPart}
      (isContent : key.name = .ok "content")
      (areParts : AreParts content parts)
      (aside : ∀ member ∈ front ++ back, IsAside member) :
      IsDocument (.object start (front ++ (key, content) :: back) (.closed stop)) parts
  | list
      (start stop : Nat)
      {content : Tree}
      {parts : List DocPart}
      (areParts : AreParts content parts) :
      IsDocument (.array start [content] (.closed stop)) parts

/-- That a text is a document with given parts. -/
def HoldsDocument
    (raw : String)
    (parts : List DocPart) :
    Prop :=
  ∃ tree, Spells raw.toList tree ∧ IsDocument tree parts

section Decoding

variable
    {tree : Tree}
    {part : DocPart}
    {parts : List DocPart}

theorem decoder_part_eq_ok_iff :
    DocPart.decoder (sectionLevels + 1) tree = .ok part ↔ IsPart tree part := by
  cases tree with
  | string read start stop =>
      cases read with
      | error fault =>
          constructor
          · rintro ⟨⟩
          · rintro ⟨⟩
      | ok content =>
          constructor
          · rintro ⟨⟩
            exact .text content start stop
          · rintro ⟨⟩
            rfl
  | object start members ending =>
      constructor
      · intro decoded
        obtain ⟨sorted, isSorted, rfl⟩ := Json.map_eq_ok_iff.mp decoded
        simp only [Decoder.map, Json.bind_eq_ok_iff, Json.openLevel_eq_ok_iff,
          Decoder.eachMember_eq_ok_iff, Decoder.list_value_eq_ok_iff,
          Json.Ending.read_eq_ok_iff, Except.ok.injEq] at isSorted
        obtain ⟨inner, ⟨isInner, -⟩, titled, areTitled, stop, rfl, rfl⟩ := isSorted
        obtain rfl := Nat.succ.inj isInner
        exact .sections start stop (areTitled.imp fun _ _ both => ⟨both.1, both.2⟩)
      · rintro ⟨⟩
        rename_i stop titled areTitled
        have isSorted : Decoder.map (Decoder.list Decoder.value) (sectionLevels + 1)
            (.object start members (.closed stop)) = .ok (sortMembers titled) := by
          simp only [Decoder.map, Json.bind_eq_ok_iff, Json.openLevel_eq_ok_iff,
            Decoder.eachMember_eq_ok_iff, Decoder.list_value_eq_ok_iff,
            Json.Ending.read_eq_ok_iff, Except.ok.injEq]
          exact ⟨_, ⟨rfl, by decide⟩, titled,
            areTitled.imp fun _ _ isTitled => ⟨isTitled.title, isTitled.items⟩, stop,
            rfl, rfl⟩
        exact Json.map_eq_ok_iff.mpr ⟨_, isSorted, rfl⟩
  | null | bool | number | array | broken =>
      constructor
      · rintro ⟨⟩
      · rintro ⟨⟩

theorem decoder_parts_eq_ok_iff :
    Decoder.list DocPart.decoder (sectionLevels + 2) tree = .ok parts ↔
      AreParts tree parts := by
  rw [Decoder.list_eq_ok_iff]
  constructor
  · rintro ⟨start, items, stop, rfl, decoded⟩
    exact .list start stop (decoded.imp fun _ _ => decoder_part_eq_ok_iff.mp)
  · rintro ⟨start, stop, areParts⟩
    exact ⟨start, _, stop, rfl, areParts.imp fun _ _ => decoder_part_eq_ok_iff.mpr⟩

/-! ## The members of a document -/

variable
    {members : List (Key × Tree)}
    {seen : List String}
    {found : List String × List DocPart}

/-- The members of a document are read a level above its parts. -/
def readDocument
    (seen : List String)
    (parts : List DocPart)
    (members : List (Key × Tree)) :
    Except Json.Fault (List String × List DocPart) :=
  DocPart.documentRecord.readMembers (sectionLevels + 2) seen parts members

variable
    {key : Key}
    {name : String}

theorem readDocument_cons_of_content (isContent : key.name = .ok "content") :
    readDocument seen parts ((key, tree) :: members) =
      if seen.contains "content" then
        .error ((Json.Mismatch.duplicateField "content").at key.next)
      else
        Decoder.list DocPart.decoder (sectionLevels + 2) tree >>= fun others =>
          readDocument ("content" :: seen) others members := by
  rw [readDocument, Json.Record.readMembers, isContent]
  show (if _ then _ else _) = _
  congr 1
  show ((Decoder.list DocPart.decoder (sectionLevels + 2) tree).map fun others _ => others)
    >>= _ = _
  cases Decoder.list DocPart.decoder (sectionLevels + 2) tree <;> rfl

theorem readDocument_cons_of_other
    (isName : key.name = .ok name)
    (other : name ≠ "content") :
    readDocument seen parts ((key, tree) :: members) =
      tree.skip >>= fun _ => readDocument seen parts members := by
  have noField : DocPart.documentRecord.fields.find? (·.name == name) = none := by
    simp [DocPart.documentRecord, Ne.symm other]
  rw [readDocument, Json.Record.readMembers, isName]
  simp only [bind, Except.bind, noField]
  rfl

theorem readDocument_cons_of_error
    {fault : Json.Fault}
    (noName : key.name = .error fault) :
    readDocument seen parts ((key, tree) :: members) = .error fault := by
  rw [readDocument, Json.Record.readMembers, noName]
  rfl

/-- A member is skipped, or it is the list of parts and none came before. -/
theorem readDocument_cons_eq_ok_iff :
    readDocument seen parts ((key, tree) :: members) = .ok found ↔
      (IsAside (key, tree) ∧ readDocument seen parts members = .ok found) ∨
        key.name = .ok "content" ∧ seen.contains "content" = false ∧
          ∃ others, AreParts tree others ∧
            readDocument ("content" :: seen) others members = .ok found := by
  constructor
  · intro read
    cases isName : key.name with
    | error fault =>
        rw [readDocument_cons_of_error isName] at read
        cases read
    | ok name =>
        by_cases isContent : name = "content"
        · subst isContent
          rw [readDocument_cons_of_content isName] at read
          split at read
          · cases read
          · rename_i new
            obtain ⟨others, areOthers, read⟩ := Json.bind_eq_ok_iff.mp read
            exact .inr ⟨rfl, Bool.eq_false_iff.mpr new, others,
              decoder_parts_eq_ok_iff.mp areOthers, read⟩
        · rw [readDocument_cons_of_other isName isContent, Json.bind_eq_ok_iff] at read
          obtain ⟨skipped, skips, read⟩ := read
          exact .inl ⟨⟨⟨name, isName, isContent⟩, skips⟩, read⟩
  · rintro (⟨⟨⟨name, isName, other⟩, skips⟩, read⟩ |
      ⟨isContent, new, others, areOthers, read⟩)
    · rw [readDocument_cons_of_other isName other, skips]
      exact read
    · rw [readDocument_cons_of_content isContent, if_neg (Bool.eq_false_iff.mp new)]
      exact Json.bind_eq_ok_iff.mpr
        ⟨others, decoder_parts_eq_ok_iff.mpr areOthers, read⟩

/-- Behind the list of parts there are other members only. -/
theorem readDocument_of_seen_eq_ok_iff :
    readDocument ["content"] parts members = .ok found ↔
      (∀ member ∈ members, IsAside member) ∧ found = (["content"], parts) := by
  induction members with
  | nil => simp [readDocument, Json.Record.readMembers, eq_comm]
  | cons member rest inductionHypothesis =>
      obtain ⟨key, tree⟩ := member
      rw [readDocument_cons_eq_ok_iff, inductionHypothesis, List.forall_mem_cons, and_assoc]
      exact or_iff_left fun again => by cases again.2.1

/-- The list of parts stands among other members, once. -/
theorem readDocument_eq_ok_iff :
    (∃ seen, readDocument [] [] members = .ok (seen, parts) ∧ "content" ∈ seen) ↔
      ∃ front key content back, members = front ++ (key, content) :: back ∧
        key.name = .ok "content" ∧ AreParts content parts ∧
          ∀ member ∈ front ++ back, IsAside member := by
  induction members with
  | nil => simp [readDocument, Json.Record.readMembers]
  | cons member rest inductionHypothesis =>
      obtain ⟨key, tree⟩ := member
      constructor
      · rintro ⟨seen, read, isSeen⟩
        rcases readDocument_cons_eq_ok_iff.mp read with
          ⟨isAside, read⟩ | ⟨isContent, -, others, areOthers, read⟩
        · obtain ⟨front, contentKey, content, back, rfl, isContent, areParts, aside⟩ :=
            inductionHypothesis.mp ⟨seen, read, isSeen⟩
          exact ⟨(key, tree) :: front, contentKey, content, back, rfl, isContent, areParts,
            List.forall_mem_cons.mpr ⟨isAside, aside⟩⟩
        · obtain ⟨aside, same⟩ := readDocument_of_seen_eq_ok_iff.mp read
          obtain ⟨-, rfl⟩ := Prod.mk.inj same
          exact ⟨[], key, tree, rest, rfl, isContent, areOthers, aside⟩
      · rintro ⟨front, contentKey, content, back, split, isContent, areParts, aside⟩
        cases front with
        | nil =>
            obtain ⟨same, rfl⟩ := List.cons.inj split
            obtain ⟨rfl, rfl⟩ := Prod.mk.inj same
            have behind : readDocument ["content"] parts rest = .ok (["content"], parts) :=
              readDocument_of_seen_eq_ok_iff.mpr ⟨aside, rfl⟩
            exact ⟨["content"], readDocument_cons_eq_ok_iff.mpr
              (.inr ⟨isContent, rfl, parts, areParts, behind⟩), List.mem_cons_self⟩
        | cons first front =>
            obtain ⟨rfl, rfl⟩ := List.cons.inj split
            obtain ⟨isAside, aside⟩ := List.forall_mem_cons.mp aside
            obtain ⟨seen, read, isSeen⟩ := inductionHypothesis.mpr
              ⟨front, contentKey, content, back, rfl, isContent, areParts, aside⟩
            exact ⟨seen, readDocument_cons_eq_ok_iff.mpr (.inl ⟨isAside, read⟩), isSeen⟩

theorem missing?_document_eq_none_iff :
    DocPart.documentRecord.missing? seen = none ↔ "content" ∈ seen := by
  simp [Json.Record.missing?, DocPart.documentRecord]

theorem readItems_document_eq_ok_iff
    {items : List Tree}
    {ending : Json.Ending} :
    DocPart.documentRecord.readItems (sectionLevels + 2) ending 0 []
        DocPart.documentRecord.fields items = .ok parts ↔
      ∃ content stop, items = [content] ∧ ending = .closed stop ∧
        AreParts content parts := by
  match items with
  | [] =>
      cases ending <;>
        simp [DocPart.documentRecord, Json.Record.readItems, Json.Ending.read, bind,
          Except.bind]
  | [content] =>
      cases ending <;>
        simp [DocPart.documentRecord, Json.Record.readItems, Json.Ending.require,
          Json.bind_eq_ok_iff, Json.map_eq_ok_iff, decoder_parts_eq_ok_iff]
  | content :: _ :: _ =>
      simp [DocPart.documentRecord, Json.Record.readItems, Json.bind_eq_ok_iff]

/-- Documents are decoded, and nothing else is. -/
theorem decoder_document_eq_ok_iff :
    DocPart.documentRecord.decoder levelLimit tree = .ok parts ↔ IsDocument tree parts := by
  cases tree with
  | object start members ending =>
      constructor
      · intro decoded
        simp only [Json.Record.decoder, Json.bind_eq_ok_iff, Json.openLevel_eq_ok_iff,
          Json.Ending.read_eq_ok_iff] at decoded
        obtain ⟨inner, ⟨isInner, -⟩, ⟨seen, found⟩, read, stop, rfl, whole⟩ := decoded
        obtain rfl : sectionLevels + 2 = inner := Nat.succ.inj isInner
        cases missing : DocPart.documentRecord.missing? seen with
        | some name => simp [missing] at whole
        | none =>
            simp only [missing, Except.ok.injEq] at whole
            subst whole
            obtain ⟨front, key, content, back, rfl, isContent, areParts, aside⟩ :=
              readDocument_eq_ok_iff.mp
                ⟨seen, read, missing?_document_eq_none_iff.mp missing⟩
            exact .object start stop isContent areParts aside
      · intro isDocument
        cases isDocument with
        | object _ stop isContent areParts aside =>
            obtain ⟨seen, read, isSeen⟩ := readDocument_eq_ok_iff.mpr
              ⟨_, _, _, _, rfl, isContent, areParts, aside⟩
            simp only [Json.Record.decoder, Json.bind_eq_ok_iff, Json.openLevel_eq_ok_iff,
              Json.Ending.read_eq_ok_iff]
            refine ⟨sectionLevels + 2, ⟨rfl, by decide⟩, (seen, parts), read, stop, rfl, ?_⟩
            rw [missing?_document_eq_none_iff.mpr isSeen]
  | array start items ending =>
      constructor
      · intro decoded
        simp only [Json.Record.decoder, Json.bind_eq_ok_iff,
          Json.openLevel_eq_ok_iff] at decoded
        obtain ⟨inner, ⟨isInner, -⟩, read⟩ := decoded
        obtain rfl : sectionLevels + 2 = inner := Nat.succ.inj isInner
        obtain ⟨content, stop, rfl, rfl, areParts⟩ := readItems_document_eq_ok_iff.mp read
        exact .list start stop areParts
      · intro isDocument
        cases isDocument with
        | list _ stop areParts =>
            simp only [Json.Record.decoder, Json.bind_eq_ok_iff, Json.openLevel_eq_ok_iff]
            exact ⟨sectionLevels + 2, ⟨rfl, by decide⟩,
              readItems_document_eq_ok_iff.mpr ⟨_, stop, rfl, rfl, areParts⟩⟩
  | null | bool | number | string | broken =>
      constructor
      · rintro ⟨⟩
      · rintro ⟨⟩

theorem decode_document_eq_ok_iff
    {raw : String} :
    Json.decode DocPart.documentRecord.decoder raw = .ok parts ↔
      HoldsDocument raw parts := by
  constructor
  · intro decoded
    obtain ⟨tree, spells, fromTree⟩ := Spells.exists_of_decode
      (fun _ cut => Json.Record.decoder_ne_ok_of_isCut cut _ _) decoded
    exact ⟨tree, spells, decoder_document_eq_ok_iff.mp fromTree⟩
  · rintro ⟨tree, spells, isDocument⟩
    exact Json.ok_of_toOption_eq
      (Json.Reads.toOption_decode_of_document _ spells.document)
      (decoder_document_eq_ok_iff.mpr isDocument)

end Decoding

/-! ## What a docstring says -/

/-- That an item describes a parameter. -/
structure Describes
    (item : Value)
    (name description : String) :
    Prop where
  param : item.member? "param" = some (.string name)
  desc : item.member? "desc" = some (.string description)

/-- The text that an item is rendered as. -/
inductive Renders : Value → String → Prop where
  | text (text : String) : Renders (.string text) text
  | named
      {item : Value}
      {name description : String}
      (describes : Describes item name description) :
      Renders item (name ++ ": " ++ description)
  | unnamed
      {item : Value}
      {description : String}
      (desc : item.member? "desc" = some (.string description))
      (noName : ∀ name, item.member? "param" ≠ some (.string name)) :
      Renders item description

/-- The texts of those items that are rendered, in order. -/
inductive RenderedAs : List Value → List String → Prop where
  | nil : RenderedAs [] []
  | rendered
      {item : Value}
      {items : List Value}
      {text : String}
      {texts : List String}
      (renders : Renders item text)
      (others : RenderedAs items texts) :
      RenderedAs (item :: items) (text :: texts)
  | passed
      {item : Value}
      {items : List Value}
      {texts : List String}
      (notRendered : ∀ text, ¬ Renders item text)
      (others : RenderedAs items texts) :
      RenderedAs (item :: items) texts

/-- The text of a part that is one. -/
def DocPart.text? : DocPart → Option String
  | .text content => some content
  | .sections _ => none

/-- That the sections of a part stand in the order of their titles, each title once. -/
def DocPart.Ascends (part : DocPart) : Prop :=
  part.sectionList.Pairwise fun one other => one.title < other.title

/-- That a docstring says what the parts of a document say. -/
structure TakenApart
    (parts : List DocPart)
    (docstring : Docstring) :
    Prop where
  /-- The texts that are not blank, trimmed, with a blank line between them. -/
  text_eq : docstring.text =
    String.intercalate "\n\n"
      (((parts.filterMap DocPart.text?).map trim).filter (· ≠ ""))
  /-- The description of a parameter is in the last item that describes it. -/
  parameter_iff : ∀ name description,
    docstring.parameter? name = some description ↔
      ∃ front item back,
        Docstring.itemsTitled argumentsTitle docstring.sections = front ++ item :: back ∧
          Describes item name description ∧
          ∀ later ∈ back, ∀ other, ¬ Describes later name other
  /-- The texts of items about what is returned, one on each line, if there are any. -/
  returns_eq : ∃ texts,
    RenderedAs (Docstring.itemsTitled returnsTitle docstring.sections) texts ∧
      docstring.returns = if texts = [] then none else some (String.intercalate "\n" texts)
  /-- The sections of one part after those of the other. -/
  sections_eq : docstring.sections = parts.flatMap DocPart.sectionList
  /-- Within a part they stand in the order of their titles. -/
  ascend : ∀ part ∈ parts, part.Ascends

section TakenApart

variable
    {item : Value}
    {name description text : String}
    {parts : List DocPart}

theorem asString?_bind_eq_some_iff
    {member : Option Value} :
    member.bind (·.asString?) = some text ↔ member = some (.string text) := by
  rcases member with _ | (_ | _ | _ | _ | _ | _) <;> simp [Value.asString?]

theorem parameterItem?_eq_some_iff :
    parameterItem? item = some (name, description) ↔ Describes item name description := by
  rw [parameterItem?]
  constructor
  · intro found
    split at found
    · rename_i param desc
      cases found
      exact ⟨asString?_bind_eq_some_iff.mp param, asString?_bind_eq_some_iff.mp desc⟩
    · cases found
  · rintro ⟨param, desc⟩
    rw [asString?_bind_eq_some_iff.mpr param, asString?_bind_eq_some_iff.mpr desc]

theorem exists_eq_object
    {content : Value}
    (found : item.member? name = some content) :
    ∃ members, item = .object members := by
  cases item with
  | object members => exact ⟨members, rfl⟩
  | null | bool | number | string | array => cases found

theorem itemText?_eq_some_iff : itemText? item = some text ↔ Renders item text := by
  constructor
  · intro rendered
    cases item with
    | string content =>
        cases rendered
        exact .text text
    | object members =>
        obtain ⟨description, desc, isText⟩ := Option.map_eq_some_iff.mp rendered
        have desc := asString?_bind_eq_some_iff.mp desc
        split at isText
        · rename_i name param
          subst isText
          exact .named ⟨asString?_bind_eq_some_iff.mp param, desc⟩
        · rename_i noName
          subst isText
          refine .unnamed desc fun name param => ?_
          rw [asString?_bind_eq_some_iff.mpr param] at noName
          cases noName
    | null | bool | number | array => cases rendered
  · intro renders
    cases renders with
    | text => rfl
    | named describes =>
        obtain ⟨members, rfl⟩ := exists_eq_object describes.desc
        rw [itemText?, asString?_bind_eq_some_iff.mpr describes.desc,
          asString?_bind_eq_some_iff.mpr describes.param]
        rfl
    | unnamed desc noName =>
        obtain ⟨members, rfl⟩ := exists_eq_object desc
        rw [itemText?, asString?_bind_eq_some_iff.mpr desc, Option.map_some]
        split
        · rename_i name param
          exact (noName name (asString?_bind_eq_some_iff.mp param)).elim
        · rfl

theorem renderedAs_filterMap (items : List Value) :
    RenderedAs items (items.filterMap itemText?) := by
  induction items with
  | nil => exact .nil
  | cons item items inductionHypothesis =>
      cases rendered : itemText? item with
      | none =>
          rw [List.filterMap_cons_none rendered]
          refine .passed (fun text renders => ?_) inductionHypothesis
          rw [itemText?_eq_some_iff.mpr renders] at rendered
          cases rendered
      | some text =>
          rw [List.filterMap_cons_some rendered]
          exact .rendered (itemText?_eq_some_iff.mp rendered) inductionHypothesis

/-- Of the items that describe a parameter the last one counts. -/
theorem lookup_parameterItems_eq_some_iff
    {items : List Value} :
    (sortMembers (items.filterMap parameterItem?)).lookup name = some description ↔
      ∃ front item back, items = front ++ item :: back ∧ Describes item name description ∧
        ∀ later ∈ back, ∀ other, ¬ Describes later name other := by
  -- The last entry of a name is the first one from behind.
  rw [Json.lookup_sortMembers_eq_reverse, List.lookup_eq_some_iff]
  constructor
  · rintro ⟨after, before, split, othersAfter⟩
    have described : items.filterMap parameterItem? =
        before.reverse ++ (name, description) :: after.reverse := by
      rw [← List.reverse_reverse (items.filterMap parameterItem?), split]
      simp
    obtain ⟨front, rest, rfl, -, restDescribed⟩ :=
      List.filterMap_eq_append_iff.mp described
    obtain ⟨silent, item, back, rfl, -, isItem, backDescribed⟩ :=
      List.filterMap_eq_cons_iff.mp restDescribed
    refine ⟨front ++ silent, item, back, by simp, parameterItem?_eq_some_iff.mp isItem, ?_⟩
    intro later isLater other describes
    have inAfter : (name, other) ∈ after := by
      rw [← List.mem_reverse, ← backDescribed, List.mem_filterMap]
      exact ⟨later, isLater, parameterItem?_eq_some_iff.mpr describes⟩
    simpa using othersAfter _ inAfter
  · rintro ⟨front, item, back, rfl, describes, notLater⟩
    refine ⟨(back.filterMap parameterItem?).reverse,
      (front.filterMap parameterItem?).reverse, ?_, ?_⟩
    · simp [List.filterMap_cons_some (parameterItem?_eq_some_iff.mpr describes)]
    · rintro ⟨other, found⟩ inBack
      obtain ⟨later, isLater, isItem⟩ := List.mem_filterMap.mp (List.mem_reverse.mp inBack)
      refine bne_iff_ne.mpr ?_
      rintro rfl
      exact notLater later isLater found (parameterItem?_eq_some_iff.mp isItem)

theorem summaries_eq (parts : List DocPart) :
    parts.filterMap DocPart.summary? =
      ((parts.filterMap DocPart.text?).map trim).filter (· ≠ "") := by
  induction parts with
  | nil => rfl
  | cons part parts inductionHypothesis =>
      cases part with
      | text content =>
          rw [List.filterMap_cons, inductionHypothesis,
            List.filterMap_cons_some (f := DocPart.text?) rfl, List.map_cons,
            List.filter_cons, DocPart.summary?]
          by_cases blank : trim content = "" <;> simp [blank]
      | sections found => exact inductionHypothesis

theorem collectReturns_eq (sections : List Section) :
    ∃ texts, RenderedAs (Docstring.itemsTitled returnsTitle sections) texts ∧
      Docstring.collectReturns sections =
        if texts = [] then none else some (String.intercalate "\n" texts) := by
  refine ⟨_, renderedAs_filterMap _, ?_⟩
  rw [Docstring.collectReturns]
  split
  · rename_i nothing
    rw [if_pos nothing]
  · rename_i something
    rw [if_neg something]

/-- A docstring of parts says what the parts say. -/
theorem takenApart_ofParts
    (ascend : ∀ part ∈ parts, part.Ascends) :
    TakenApart parts (Docstring.ofParts parts) where
  text_eq := congrArg (String.intercalate "\n\n") (summaries_eq parts)
  parameter_iff _ _ := lookup_parameterItems_eq_some_iff
  returns_eq := collectReturns_eq _
  sections_eq := rfl
  ascend := ascend

theorem IsPart.ascends
    {tree : Tree}
    {part : DocPart}
    (isPart : IsPart tree part) :
    part.Ascends := by
  cases isPart with
  | text => exact .nil
  | sections => exact List.pairwise_map.mpr (Json.ascending_sortMembers _)

theorem AreParts.ascend
    {tree : Tree}
    (areParts : AreParts tree parts) :
    ∀ part ∈ parts, part.Ascends := by
  obtain ⟨start, stop, areParts⟩ := areParts
  intro part isPart
  obtain ⟨index, inRange, rfl⟩ := List.getElem_of_mem isPart
  exact (areParts.get (areParts.length_eq ▸ inRange) inRange).ascends

theorem IsDocument.ascend
    {tree : Tree}
    (isDocument : IsDocument tree parts) :
    ∀ part ∈ parts, part.Ascends := by
  cases isDocument with
  | object _ _ _ areParts => exact areParts.ascend
  | list _ _ areParts => exact areParts.ascend

end TakenApart

/--
A docstring is taken apart into what its parts say if it is a document, which is when it
is decoded as one; otherwise it is a trimmed summary and nothing else.
-/
theorem documents_are_taken_apart (raw : String) :
    (∀ parts, Json.decode DocPart.documentRecord.decoder raw = .ok parts ↔
      HoldsDocument raw parts) ∧
    (∀ parts, HoldsDocument raw parts → TakenApart parts (Docstring.parse raw)) ∧
    ((∀ parts, ¬ HoldsDocument raw parts) →
      Docstring.parse raw = { text := trim raw }) := by
  refine ⟨fun parts => decode_document_eq_ok_iff, fun parts holds => ?_,
    fun holdsNone => ?_⟩
  · rw [Docstring.parse, decode_document_eq_ok_iff.mpr holds]
    obtain ⟨tree, -, isDocument⟩ := holds
    exact takenApart_ofParts isDocument.ascend
  · rw [Docstring.parse]
    cases decoded : Json.decode DocPart.documentRecord.decoder raw with
    | ok parts => exact (holdsNone parts (decode_document_eq_ok_iff.mp decoded)).elim
    | error fault => rfl

theorem documents_are_taken_apart_of_interleaved :
    let raw := "\x7b\"content\":[\" Opens. \",\x7b\"Returns\":[0,\"A file.\"]," ++
      "\"Arguments\":[\x7b\"param\":\"a\",\"desc\":\"One\"\x7d," ++
      "\x7b\"param\":\"a\",\"desc\":\"Two\"\x7d]\x7d,\" \",\"Twice.\"]\x7d"
    (∃ parts, HoldsDocument raw parts ∧ TakenApart parts (Docstring.parse raw)) ∧
      (Docstring.parse raw).text = "Opens.\n\nTwice." ∧
      (Docstring.parse raw).parameters = [("a", "Two")] ∧
      (Docstring.parse raw).returns = some "A file." ∧
      Docstring.parse "[\n" = { text := "[" } := by
  intro raw
  have evaluated : (Docstring.parse raw).text = "Opens.\n\nTwice." ∧
      (Docstring.parse raw).parameters = [("a", "Two")] ∧
      (Docstring.parse raw).returns = some "A file." := by
    decide +kernel
  have isRefused : (Json.decode DocPart.documentRecord.decoder "[\n").toOption.isNone := by
    decide +kernel
  have trimmed : trim "[\n" = "[" := by decide
  refine ⟨?_, evaluated.1, evaluated.2.1, evaluated.2.2, ?_⟩
  · obtain ⟨-, takesApart, isSummary⟩ := documents_are_taken_apart raw
    by_cases holds : ∃ parts, HoldsDocument raw parts
    · obtain ⟨parts, holds⟩ := holds
      exact ⟨parts, holds, takesApart parts holds⟩
    · have noParameters : (Docstring.parse raw).parameters = [] :=
        congrArg Docstring.parameters (isSummary (not_exists.mp holds))
      rw [evaluated.2.1] at noParameters
      cases noParameters
  · obtain ⟨decodes_iff, -, isSummary⟩ := documents_are_taken_apart "[\n"
    rw [← trimmed]
    refine isSummary fun parts holds => ?_
    rw [(decodes_iff parts).mpr holds] at isRefused
    cases isRefused

end ApiTree.Dump
