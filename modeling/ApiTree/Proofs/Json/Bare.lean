import ApiTree.Proofs.Json.Reading

namespace ApiTree.Json

open Reads (innerLevel? toOption_bind toOption_map toOption_openLevel)

/-!
# Trees without their places

A tree knows where its parts stand in the text and which faults were met there.  A
reader needs both for nothing but its own faults: what it gets from a tree, if it gets
anything, it gets from the bare tree as well.  Nor does it matter how many levels may
still be opened, as long as they are enough for the tree.
-/

/-! ## Bare trees -/

/-- An outcome without what is known of its fault. -/
def bareOutcome
    {α : Type} :
    Except Fault α → Except Fault α
  | .ok found => .ok found
  | .error _ => .error ⟨.expectedValue, 0⟩

/-- A name without its place. -/
def Key.bare (key : Key) : Key :=
  ⟨bareOutcome key.name, 0⟩

/-- An ending without its place. -/
def Ending.bare : Ending → Ending
  | .closed _ => .closed 0
  | .failed _ _ _ =>
      .failed ⟨.expectedValue, 0⟩ ⟨.expectedValue, 0⟩ ⟨.expectedValue, 0⟩

mutual

/-- A tree without the places of its parts. -/
def Tree.bare : Tree → Tree
  | .null _ _ => .null 0 0
  | .bool value _ _ => .bool value 0 0
  | .number value _ _ => .number (bareOutcome value) 0 0
  | .string value _ _ => .string (bareOutcome value) 0 0
  | .array _ items ending => .array 0 (Tree.bareItems items) ending.bare
  | .object _ members ending => .object 0 (Tree.bareMembers members) ending.bare
  | .broken _ _ _ => .broken 0 ⟨.expectedValue, 0⟩ ⟨.expectedValue, 0⟩

/-- Items without their places. -/
def Tree.bareItems : List Tree → List Tree
  | [] => []
  | item :: rest => item.bare :: Tree.bareItems rest

/-- Members without their places. -/
def Tree.bareMembers : List (Key × Tree) → List (Key × Tree)
  | [] => []
  | (key, content) :: rest => (key.bare, content.bare) :: Tree.bareMembers rest

end

mutual

/-- How many lists and objects stand inside each other in a tree. -/
def Tree.nesting : Tree → Nat
  | .array _ items _ => Tree.nestingOfItems items + 1
  | .object _ members _ => Tree.nestingOfMembers members + 1
  | _ => 0

/-- The greatest nesting of several items. -/
def Tree.nestingOfItems : List Tree → Nat
  | [] => 0
  | item :: rest => max item.nesting (Tree.nestingOfItems rest)

/-- The greatest nesting of the contents of several members. -/
def Tree.nestingOfMembers : List (Key × Tree) → Nat
  | [] => 0
  | (_, content) :: rest => max content.nesting (Tree.nestingOfMembers rest)

end

@[simp] theorem toOption_bareOutcome
    {α : Type}
    (outcome : Except Fault α) :
    (bareOutcome outcome).toOption = outcome.toOption := by
  cases outcome <;> rfl

theorem bareOutcome_eq_iff
    {α : Type}
    {one other : Except Fault α} :
    bareOutcome one = bareOutcome other ↔ one.toOption = other.toOption := by
  cases one <;> cases other <;> simp [bareOutcome, Except.toOption]

theorem ok_of_toOption_eq
    {α : Type}
    {one other : Except Fault α}
    {found : α}
    (same : one.toOption = other.toOption)
    (isOk : other = .ok found) :
    one = .ok found := by
  subst isOk
  cases one <;> cases same
  rfl

theorem Tree.bareItems_eq_map (items : List Tree) :
    Tree.bareItems items = items.map Tree.bare := by
  induction items with
  | nil => rfl
  | cons item rest inductionHypothesis =>
      rw [bareItems, inductionHypothesis, List.map_cons]

theorem Tree.bareMembers_eq_map (members : List (Key × Tree)) :
    Tree.bareMembers members =
      members.map fun member => (member.1.bare, member.2.bare) := by
  induction members with
  | nil => rfl
  | cons member rest inductionHypothesis =>
      rw [bareMembers, inductionHypothesis, List.map_cons]

mutual

/-- A bare tree is nested as the tree is. -/
@[simp] theorem Tree.nesting_bare : (tree : Tree) → tree.bare.nesting = tree.nesting
  | .null _ _ => rfl
  | .bool _ _ _ => rfl
  | .number _ _ _ => rfl
  | .string _ _ _ => rfl
  | .broken _ _ _ => rfl
  | .array _ items _ => congrArg (· + 1) (Tree.nestingOfItems_bareItems items)
  | .object _ members _ => congrArg (· + 1) (Tree.nestingOfMembers_bareMembers members)

theorem Tree.nestingOfItems_bareItems :
    (items : List Tree) →
      Tree.nestingOfItems (Tree.bareItems items) = Tree.nestingOfItems items
  | [] => rfl
  | item :: rest =>
      congrArg₂ max item.nesting_bare (Tree.nestingOfItems_bareItems rest)

theorem Tree.nestingOfMembers_bareMembers :
    (members : List (Key × Tree)) →
      Tree.nestingOfMembers (Tree.bareMembers members) = Tree.nestingOfMembers members
  | [] => rfl
  | (_, content) :: rest =>
      congrArg₂ max content.nesting_bare (Tree.nestingOfMembers_bareMembers rest)

end

theorem Tree.nesting_le_nestingOfItems
    {item : Tree}
    {items : List Tree}
    (isItem : item ∈ items) :
    item.nesting ≤ Tree.nestingOfItems items := by
  induction items with
  | nil => cases isItem
  | cons first rest inductionHypothesis =>
      rcases List.mem_cons.mp isItem with rfl | inRest
      · exact Nat.le_max_left _ _
      · exact Nat.le_trans (inductionHypothesis inRest) (Nat.le_max_right _ _)

/-! ## Readers of any value -/

mutual

/-- A tree can be skipped if it can be skipped without its places. -/
theorem Tree.toOption_skip_bare :
    (tree : Tree) → tree.bare.skip.toOption = tree.skip.toOption
  | .null _ _ => rfl
  | .bool _ _ _ => rfl
  | .number _ _ _ => rfl
  | .string _ _ _ => rfl
  | .broken _ _ _ => rfl
  | .array _ items ending => by
      rw [bare, skip, skip, toOption_bind, toOption_bind,
        Tree.toOption_skipItems_bareItems items]
      cases ending <;> rfl
  | .object _ members ending => by
      rw [bare, skip, skip, toOption_bind, toOption_bind,
        Tree.toOption_skipMembers_bareMembers members]
      cases ending <;> rfl

theorem Tree.toOption_skipItems_bareItems :
    (items : List Tree) →
      (Tree.skipItems (Tree.bareItems items)).toOption =
        (Tree.skipItems items).toOption
  | [] => rfl
  | item :: rest => by
      rw [bareItems, skipItems, skipItems, toOption_bind, toOption_bind,
        item.toOption_skip_bare, Tree.toOption_skipItems_bareItems rest]

theorem Tree.toOption_skipMembers_bareMembers :
    (members : List (Key × Tree)) →
      (Tree.skipMembers (Tree.bareMembers members)).toOption =
        (Tree.skipMembers members).toOption
  | [] => rfl
  | (_, content) :: rest => by
      rw [bareMembers, skipMembers, skipMembers, toOption_bind, toOption_bind,
        content.toOption_skip_bare, Tree.toOption_skipMembers_bareMembers rest]

end

/-- With enough levels one is left for what is inside. -/
theorem innerLevel?_of_lt
    {nesting levels : Nat}
    (enough : nesting + 1 < levels) :
    innerLevel? levels = some (levels - 1) :=
  Reads.innerLevel?_eq_some_iff.mpr (by omega)

/--
That as many levels can be opened with one number of levels as with the other: it is the
same number, or both are enough for the nesting.
-/
def OpensAlike (nesting levels other : Nat) : Prop :=
  levels = other ∨ nesting < levels ∧ nesting < other

/-- A level is opened with both or with neither, and inside it is as it was outside. -/
theorem OpensAlike.inner
    {nesting levels other : Nat}
    (alike : OpensAlike (nesting + 1) levels other) :
    (innerLevel? levels = none ∧ innerLevel? other = none) ∨
      ∃ inner otherInner, innerLevel? levels = some inner ∧
        innerLevel? other = some otherInner ∧ OpensAlike nesting inner otherInner := by
  rcases alike with rfl | ⟨enough, enoughToo⟩
  · cases innerLevel? levels with
    | none => exact .inl ⟨rfl, rfl⟩
    | some inner => exact .inr ⟨inner, inner, rfl, rfl, .inl rfl⟩
  · exact .inr ⟨levels - 1, other - 1, innerLevel?_of_lt enough,
      innerLevel?_of_lt enoughToo,
      .inr ⟨Nat.lt_sub_of_add_lt enough, Nat.lt_sub_of_add_lt enoughToo⟩⟩

theorem OpensAlike.mono
    {nesting less levels other : Nat}
    (alike : OpensAlike nesting levels other)
    (le : less ≤ nesting) :
    OpensAlike less levels other :=
  alike.imp id fun both => ⟨Nat.lt_of_le_of_lt le both.1, Nat.lt_of_le_of_lt le both.2⟩

mutual

/-- What is read from a tree is read from the bare tree, with levels that open alike. -/
theorem Tree.toOption_readValue_bare :
    (tree : Tree) → ∀ {levels other : Nat}, OpensAlike tree.nesting levels other →
      (tree.readValue levels).toOption = (tree.bare.readValue other).toOption
  | .null _ _, _, _, _ => rfl
  | .bool _ _ _, _, _, _ => rfl
  | .number value _ _, _, _, _ => by cases value <;> rfl
  | .string value _ _, _, _, _ => by cases value <;> rfl
  | .broken _ _ _, _, _, _ => rfl
  | .array _ items ending, levels, other, alike => by
      rw [bare, readValue, readValue]
      simp only [toOption_bind, toOption_openLevel]
      rcases alike.inner with ⟨none, noneToo⟩ | ⟨inner, otherInner, some, someToo, inside⟩
      · rw [none, noneToo]
        rfl
      · simp only [some, someToo, Option.bind_some,
          Tree.toOption_readValues_bareItems items inside]
        cases ending <;> rfl
  | .object _ members ending, levels, other, alike => by
      rw [bare, readValue, readValue]
      simp only [toOption_bind, toOption_openLevel]
      rcases alike.inner with ⟨none, noneToo⟩ | ⟨inner, otherInner, some, someToo, inside⟩
      · rw [none, noneToo]
        rfl
      · simp only [some, someToo, Option.bind_some,
          Tree.toOption_readMembers_bareMembers members inside]
        cases ending <;> rfl

theorem Tree.toOption_readValues_bareItems :
    (items : List Tree) → ∀ {levels other : Nat},
      OpensAlike (Tree.nestingOfItems items) levels other →
        (Tree.readValues levels items).toOption =
          (Tree.readValues other (Tree.bareItems items)).toOption
  | [], _, _, _ => rfl
  | item :: rest, levels, other, alike => by
      rw [bareItems, readValues, readValues]
      simp only [toOption_bind,
        item.toOption_readValue_bare (alike.mono (Nat.le_max_left _ _)),
        Tree.toOption_readValues_bareItems rest (alike.mono (Nat.le_max_right _ _))]

theorem Tree.toOption_readMembers_bareMembers :
    (members : List (Key × Tree)) → ∀ {levels other : Nat},
      OpensAlike (Tree.nestingOfMembers members) levels other →
        (Tree.readMembers levels members).toOption =
          (Tree.readMembers other (Tree.bareMembers members)).toOption
  | [], _, _, _ => rfl
  | (key, content) :: rest, levels, other, alike => by
      rw [bareMembers, readMembers, readMembers]
      simp only [toOption_bind, Key.bare, toOption_bareOutcome,
        content.toOption_readValue_bare (alike.mono (Nat.le_max_left _ _)),
        Tree.toOption_readMembers_bareMembers rest (alike.mono (Nat.le_max_right _ _))]

end

/-! ## Decoders -/

/--
That a decoder gets the same from every tree of small nesting as from the bare tree,
as long as enough levels may be opened.
-/
def Decoder.SteadyBelow
    {α : Type}
    (depth : Nat)
    (decoder : Decoder α) :
    Prop :=
  ∀ (tree : Tree) (levels other : Nat),
    tree.nesting < depth → tree.nesting < levels → tree.nesting < other →
      (decoder levels tree).toOption = (decoder other tree.bare).toOption

namespace Decoder.SteadyBelow

variable
    {α β : Type}
    {depth : Nat}
    {decoder : Decoder α}

theorem zero (decoder : Decoder α) : SteadyBelow 0 decoder :=
  fun _ _ _ small => (Nat.not_lt_zero _ small).elim

theorem mono
    {less : Nat}
    (steady : SteadyBelow depth decoder)
    (le : less ≤ depth) :
    SteadyBelow less decoder :=
  fun tree levels other small => steady tree levels other (Nat.lt_of_lt_of_le small le)

theorem map
    (steady : SteadyBelow depth decoder)
    (change : α → β) :
    SteadyBelow depth fun levels tree => (decoder levels tree).map change := by
  intro tree levels other small enough enoughToo
  simp only [toOption_map, steady tree levels other small enough enoughToo]

theorem value (depth : Nat) : SteadyBelow depth Decoder.value :=
  fun tree _ _ _ enough enoughToo =>
    tree.toOption_readValue_bare (.inr ⟨enough, enoughToo⟩)

theorem textAs
    (depth : Nat)
    (expected : String) :
    SteadyBelow depth (Decoder.textAs expected) := by
  intro tree levels other small enough enoughToo
  cases tree with
  | string value => exact (toOption_bareOutcome value).symm
  | null | bool | number | array | object | broken => rfl

theorem natUpTo
    (depth bound : Nat)
    (expected : String) :
    SteadyBelow depth (Decoder.natUpTo bound expected) := by
  intro tree levels other small enough enoughToo
  cases tree with
  | number value =>
      rcases value with fault | (integer | real)
      · rfl
      · simp only [Decoder.natUpTo, Tree.bare, bareOutcome]
        split <;> rfl
      · rfl
  | null | bool | string | array | object | broken => rfl

theorem optional (steady : SteadyBelow depth decoder) :
    SteadyBelow depth (Decoder.optional decoder) := by
  intro tree levels other small enough enoughToo
  have same := steady tree levels other small enough enoughToo
  cases tree with
  | null => rfl
  | bool | number | string | array | object | broken =>
      simp only [Decoder.optional, toOption_map, same, Tree.bare]

theorem toOption_each
    {read readBare : Tree → Except Fault α}
    {items : List Tree}
    (same : ∀ item ∈ items, (read item).toOption = (readBare item.bare).toOption) :
    (Decoder.each read items).toOption =
      (Decoder.each readBare (Tree.bareItems items)).toOption := by
  induction items with
  | nil => rfl
  | cons item rest inductionHypothesis =>
      obtain ⟨first, others⟩ := List.forall_mem_cons.mp same
      simp only [Tree.bareItems, Decoder.each, toOption_bind, first,
        inductionHypothesis others]

theorem list (steady : SteadyBelow depth decoder) :
    SteadyBelow (depth + 1) (Decoder.list decoder) := by
  intro tree levels other small enough enoughToo
  cases tree with
  | array start items ending =>
      have each := toOption_each fun item isItem =>
        have within := Tree.nesting_le_nestingOfItems isItem
        steady item (levels - 1) (other - 1)
          (Nat.lt_of_le_of_lt within (Nat.lt_of_succ_lt_succ small))
          (Nat.lt_of_le_of_lt within (Nat.lt_sub_of_add_lt enough))
          (Nat.lt_of_le_of_lt within (Nat.lt_sub_of_add_lt enoughToo))
      simp only [Decoder.list, Tree.bare, toOption_bind, toOption_openLevel,
        innerLevel?_of_lt enough, innerLevel?_of_lt enoughToo, Option.bind_some, each]
      cases ending <;> rfl
  | null | bool | number | string | object | broken => rfl

/-! ## Records -/

variable
    {σ : Type}
    {record : Record σ}

theorem toOption_readMembers
    (steady : ∀ field ∈ record.fields, SteadyBelow depth field.read)
    {levels other : Nat}
    {members : List (Key × Tree)}
    (small : Tree.nestingOfMembers members < depth)
    (enough : Tree.nestingOfMembers members < levels)
    (enoughToo : Tree.nestingOfMembers members < other)
    (seen : List String)
    (state : σ) :
    (record.readMembers levels seen state members).toOption =
      (record.readMembers other seen state (Tree.bareMembers members)).toOption := by
  induction members generalizing seen state with
  | nil => rfl
  | cons member rest inductionHypothesis =>
      obtain ⟨key, content⟩ := member
      obtain ⟨contentSmall, restSmall⟩ := Nat.max_lt.mp small
      obtain ⟨forContent, forRest⟩ := Nat.max_lt.mp enough
      obtain ⟨forContentToo, forRestToo⟩ := Nat.max_lt.mp enoughToo
      have others := inductionHypothesis restSmall forRest forRestToo
      simp only [Tree.bareMembers, Record.readMembers, toOption_bind, Key.bare,
        toOption_bareOutcome]
      cases key.name.toOption with
      | none => rfl
      | some name =>
          simp only [Option.bind_some]
          split
          · split
            · simp only [toOption_bind, content.toOption_skip_bare, others]
            · rfl
          · rename_i field found
            have same := steady field (List.mem_of_find?_eq_some found) content levels
              other contentSmall forContent forContentToo
            split
            · rfl
            · simp only [toOption_bind, same, others]

theorem toOption_readItems
    {fields : List (RecordField σ)}
    (steady : ∀ field ∈ fields, SteadyBelow depth field.read)
    {levels other : Nat}
    {items : List Tree}
    (small : Tree.nestingOfItems items < depth)
    (enough : Tree.nestingOfItems items < levels)
    (enoughToo : Tree.nestingOfItems items < other)
    (ending : Ending)
    (count : Nat)
    (state : σ) :
    (record.readItems levels ending count state fields items).toOption =
      (record.readItems other ending.bare count state fields
        (Tree.bareItems items)).toOption := by
  induction fields generalizing items count state with
  | nil =>
      cases items with
      | nil => cases ending <;> rfl
      | cons => rfl
  | cons field fields inductionHypothesis =>
      obtain ⟨fieldSteady, fieldsSteady⟩ := List.forall_mem_cons.mp steady
      cases items with
      | nil =>
          have others := inductionHypothesis fieldsSteady small enough enoughToo
            (count + 1) state
          simp only [Tree.bareItems, Record.readItems, toOption_bind] at others ⊢
          cases ending with
          | failed => rfl
          | closed stop =>
              cases isRequired : field.required with
              | true => rfl
              | false => exact others
      | cons item items =>
          obtain ⟨itemSmall, itemsSmall⟩ := Nat.max_lt.mp small
          obtain ⟨forItem, forItems⟩ := Nat.max_lt.mp enough
          obtain ⟨forItemToo, forItemsToo⟩ := Nat.max_lt.mp enoughToo
          have same := fieldSteady item levels other itemSmall forItem forItemToo
          simp only [Tree.bareItems, Record.readItems, toOption_bind, same,
            inductionHypothesis fieldsSteady itemsSmall forItems forItemsToo]

/-- The decoder of a record gets the same from bare trees if those of its fields do. -/
theorem ofRecord (steady : ∀ field ∈ record.fields, SteadyBelow depth field.read) :
    SteadyBelow (depth + 1) record.decoder := by
  intro tree levels other small enough enoughToo
  cases tree with
  | object start members ending =>
      have membersRead := toOption_readMembers steady (Nat.lt_of_succ_lt_succ small)
        (Nat.lt_sub_of_add_lt enough) (Nat.lt_sub_of_add_lt enoughToo) []
        record.initial
      simp only [Record.decoder, Tree.bare, toOption_bind, toOption_openLevel,
        innerLevel?_of_lt enough, innerLevel?_of_lt enoughToo, Option.bind_some,
        membersRead]
      cases ending with
      | failed => rfl
      | closed stop =>
          simp only [Ending.bare, Ending.read, Except.toOption, Option.bind_some]
          congr
          funext found
          cases record.missing? found.1 <;> rfl
  | array start items ending =>
      have itemsRead :
          (record.readItems (levels - 1) ending 0 record.initial record.fields
              items).toOption =
            (record.readItems (other - 1) ending.bare 0 record.initial record.fields
              (Tree.bareItems items)).toOption :=
        toOption_readItems steady (Nat.lt_of_succ_lt_succ small)
          (Nat.lt_sub_of_add_lt enough) (Nat.lt_sub_of_add_lt enoughToo) ending 0
          record.initial
      simp only [Record.decoder, Tree.bare, toOption_bind, toOption_openLevel,
        innerLevel?_of_lt enough, innerLevel?_of_lt enoughToo, Option.bind_some,
        itemsRead]
  | null | bool | number | string | broken => rfl

end Decoder.SteadyBelow

/--
That a property which decoders have up to a depth holds of those of texts, numbers and any
values, and is handed on from the decoders of parts to that of a whole, one deeper.
-/
structure Decoder.Compositional
    (holds : {α : Type} → Nat → Decoder α → Prop) :
    Prop where
  zero {α : Type} (decoder : Decoder α) : holds 0 decoder
  mono
    {α : Type}
    {decoder : Decoder α}
    {depth less : Nat}
    (isSo : holds depth decoder)
    (le : less ≤ depth) :
    holds less decoder
  textAs (depth : Nat) (expected : String) : holds depth (Decoder.textAs expected)
  natUpTo
    (depth bound : Nat)
    (expected : String) :
    holds depth (Decoder.natUpTo bound expected)
  value (depth : Nat) : holds depth Decoder.value
  map
    {α β : Type}
    {decoder : Decoder α}
    {depth : Nat}
    (isSo : holds depth decoder)
    (change : α → β) :
    holds depth fun levels tree => (decoder levels tree).map change
  optional
    {α : Type}
    {decoder : Decoder α}
    {depth : Nat}
    (isSo : holds depth decoder) :
    holds depth (Decoder.optional decoder)
  list
    {α : Type}
    {decoder : Decoder α}
    {depth : Nat}
    (isSo : holds depth decoder) :
    holds (depth + 1) (Decoder.list decoder)
  ofRecord
    {σ : Type}
    {record : Record σ}
    {depth : Nat}
    (fields : ∀ field ∈ record.fields, holds depth field.read) :
    holds (depth + 1) record.decoder

theorem Decoder.SteadyBelow.compositional : Decoder.Compositional @SteadyBelow where
  zero := zero
  mono := mono
  textAs := textAs
  natUpTo := natUpTo
  value := value
  map := map
  optional := optional
  list := list
  ofRecord := ofRecord

end ApiTree.Json
