import ApiTree.Proofs.Json.Bare
import Mathlib.Data.List.Forall2

namespace ApiTree.Json

open Reads
  (innerLevel? innerLevel?_eq_some_iff toOption_bind toOption_map toOption_openLevel)

/-!
# Trees with a part replaced

What a decoder gets from a tree depends on its parts through what is got from them.  If
the same is got from the parts of two trees, the same is got from the trees; and nothing
is got from a tree if nothing is got from a part that is asked for.  So no decoder asks
for places, with whatever number of levels that may be opened.
-/

variable
    {α β σ : Type}
    {levels : Nat}

/-- That a decoder gets the same from two trees. -/
def Decoder.GetsSame
    (decoder : Decoder α)
    (levels : Nat)
    (one other : Tree) :
    Prop :=
  (decoder levels one).toOption = (decoder levels other).toOption

/-- That a decoder gets nothing from a tree. -/
def Decoder.GetsNone
    (decoder : Decoder α)
    (levels : Nat)
    (tree : Tree) :
    Prop :=
  (decoder levels tree).toOption = none

/-- Whatever holds of any part and itself, and of a part and another, holds around both. -/
theorem forall₂_replace
    {same : α → α → Prop}
    (refl : ∀ part, same part part)
    {one other : α}
    (isSo : same one other)
    (front back : List α) :
    List.Forall₂ same (front ++ one :: back) (front ++ other :: back) :=
  List.rel_append (List.forall₂_same.mpr fun part _ => refl part)
    (.cons isSo (List.forall₂_same.mpr fun part _ => refl part))

/-- Inside a level that is opened only one level less is asked for. -/
theorem bind_innerLevel?_congr
    {first second : Nat → Option α}
    (same : ∀ inner, levels = inner + 1 → first inner = second inner) :
    (innerLevel? levels).bind first = (innerLevel? levels).bind second := by
  cases opened : innerLevel? levels with
  | none => rfl
  | some inner => exact same inner (innerLevel?_eq_some_iff.mp opened).1

theorem bind_innerLevel?_eq_none
    {next : Nat → Option α}
    (nothing : ∀ inner, levels = inner + 1 → next inner = none) :
    (innerLevel? levels).bind next = none :=
  (bind_innerLevel?_congr nothing).trans (Option.bind_fun_none _)

/-! ## Several values and lists -/

namespace Decoder

variable
    {decoder : Decoder α}

theorem GetsSame.map
    {one other : Tree}
    (same : decoder.GetsSame levels one other)
    (change : α → β) :
    GetsSame (fun levels tree => (decoder levels tree).map change) levels one other := by
  rw [GetsSame, toOption_map, toOption_map, same]

theorem GetsNone.map
    {tree : Tree}
    (nothing : decoder.GetsNone levels tree)
    (change : α → β) :
    GetsNone (fun levels tree => (decoder levels tree).map change) levels tree := by
  rw [GetsNone, toOption_map, nothing]
  rfl

/-- What is got from null is not asked of the decoder of other values. -/
theorem optional_eq_map
    {tree : Tree}
    (notNull : ∀ start stop, tree ≠ .null start stop) :
    optional decoder levels tree = (decoder levels tree).map some := by
  cases tree with
  | null start stop => exact (notNull start stop rfl).elim
  | bool | number | string | array | object | broken => rfl

theorem toOption_each_congr
    {read readOther : Tree → Except Fault α}
    {items others : List Tree}
    (same : List.Forall₂
      (fun item other => (read item).toOption = (readOther other).toOption) items others) :
    (each read items).toOption = (each readOther others).toOption := by
  induction same with
  | nil => rfl
  | cons first _ inductionHypothesis =>
      simp only [each, toOption_bind, first, inductionHypothesis]

theorem toOption_each_eq_none
    {read : Tree → Except Fault α}
    {item : Tree}
    {items : List Tree}
    (isItem : item ∈ items)
    (nothing : (read item).toOption = none) :
    (each read items).toOption = none := by
  induction items with
  | nil => cases isItem
  | cons first rest inductionHypothesis =>
      rw [each, toOption_bind]
      rcases List.mem_cons.mp isItem with rfl | inRest
      · rw [nothing, Option.bind_none]
      · cases (read first).toOption with
        | none => rfl
        | some value =>
            rw [Option.bind_some, toOption_bind, inductionHypothesis inRest,
              Option.bind_none]

theorem getsSame_list
    {start otherStart : Nat}
    {items others : List Tree}
    {ending otherEnding : Ending}
    (same : ∀ inner, levels = inner + 1 →
      List.Forall₂ (decoder.GetsSame inner) items others)
    (sameEnding : ending.bare = otherEnding.bare) :
    (list decoder).GetsSame levels (.array start items ending)
      (.array otherStart others otherEnding) := by
  rw [GetsSame, list, list, toOption_bind, toOption_bind, toOption_openLevel,
    toOption_openLevel]
  refine bind_innerLevel?_congr fun inner isInner => ?_
  have sameItems : (each (decoder inner) items).toOption =
      (each (decoder inner) others).toOption :=
    toOption_each_congr (same inner isInner)
  rw [toOption_bind, toOption_bind, sameItems]
  cases ending <;> cases otherEnding <;> first | rfl | cases sameEnding

theorem getsNone_list
    {start : Nat}
    {item : Tree}
    {items : List Tree}
    {ending : Ending}
    (isItem : item ∈ items)
    (nothing : ∀ inner, levels = inner + 1 → decoder.GetsNone inner item) :
    (list decoder).GetsNone levels (.array start items ending) := by
  rw [GetsNone, list, toOption_bind, toOption_openLevel]
  refine bind_innerLevel?_eq_none fun inner isInner => ?_
  have noItems : (each (decoder inner) items).toOption = none :=
    toOption_each_eq_none isItem (nothing inner isInner)
  rw [toOption_bind, noItems, Option.bind_none]

end Decoder

/-! ## Records -/

namespace Record

variable
    {record : Record σ}

/--
That a record gets the same from two members: they have one name, and either it is that
of a field which gets the same from both, or both are skipped alike.
-/
structure GetsSameMember
    (record : Record σ)
    (levels : Nat)
    (one other : Key × Tree) :
    Prop where
  name : one.1.name.toOption = other.1.name.toOption
  skip : ∀ name, one.1.name.toOption = some name →
    record.fields.find? (·.name == name) = none →
      one.2.skip.toOption = other.2.skip.toOption
  read : ∀ name field, one.1.name.toOption = some name →
    record.fields.find? (·.name == name) = some field →
      field.read.GetsSame levels one.2 other.2

theorem GetsSameMember.refl
    (record : Record σ)
    (levels : Nat)
    (member : Key × Tree) :
    record.GetsSameMember levels member member :=
  ⟨rfl, fun _ _ _ => rfl, fun _ _ _ _ => rfl⟩

/-- Only the field of its name is asked for a replaced member. -/
theorem GetsSameMember.replace
    {key : Key}
    {name : String}
    {field : RecordField σ}
    {one other : Tree}
    (isName : key.name.toOption = some name)
    (isField : record.fields.find? (·.name == name) = some field)
    (same : field.read.GetsSame levels one other) :
    record.GetsSameMember levels (key, one) (key, other) where
  name := rfl
  skip another isAnother notField := by
    obtain rfl := Option.some.inj (isName.symm.trans isAnother)
    rw [isField] at notField
    cases notField
  read another anotherField isAnother isAnotherField := by
    obtain rfl := Option.some.inj (isName.symm.trans isAnother)
    obtain rfl := Option.some.inj (isField.symm.trans isAnotherField)
    exact same

theorem toOption_readMembers_cons
    (seen : List String)
    (state : σ)
    (key : Key)
    (content : Tree)
    (rest : List (Key × Tree)) :
    (record.readMembers levels seen state ((key, content) :: rest)).toOption =
      key.name.toOption.bind fun name =>
        match record.fields.find? (·.name == name) with
        | none =>
            if record.skipsUnknown then
              content.skip.toOption.bind fun _ =>
                (record.readMembers levels seen state rest).toOption
            else
              none
        | some field =>
            if seen.contains name then
              none
            else
              (field.read levels content).toOption.bind fun update =>
                (record.readMembers levels (name :: seen) (update state)
                  rest).toOption := by
  rw [readMembers, toOption_bind]
  congr
  funext name
  cases record.fields.find? (·.name == name) with
  | none =>
      cases record.skipsUnknown with
      | false => rfl
      | true => exact toOption_bind _ _
  | some field =>
      cases seen.contains name with
      | true => rfl
      | false => exact toOption_bind _ _

theorem toOption_readMembers_congr
    {members others : List (Key × Tree)}
    (same : List.Forall₂ (record.GetsSameMember levels) members others)
    (seen : List String)
    (state : σ) :
    (record.readMembers levels seen state members).toOption =
      (record.readMembers levels seen state others).toOption := by
  induction same generalizing seen state with
  | nil => rfl
  | @cons member other _ _ first _ inductionHypothesis =>
      obtain ⟨key, content⟩ := member
      obtain ⟨otherKey, otherContent⟩ := other
      obtain ⟨sameName, sameSkip, sameRead⟩ := first
      rw [toOption_readMembers_cons, toOption_readMembers_cons, ← sameName]
      cases isName : key.name.toOption with
      | none => rfl
      | some name =>
          rw [Option.bind_some, Option.bind_some]
          cases isField : record.fields.find? (·.name == name) with
          | none => simp only [sameSkip name isName isField, inductionHypothesis]
          | some field =>
              have sameUpdate : (field.read levels content).toOption =
                  (field.read levels otherContent).toOption :=
                sameRead name field isName isField
              simp only [sameUpdate, inductionHypothesis]

theorem toOption_readMembers_eq_none
    {key : Key}
    {name : String}
    {field : RecordField σ}
    {content : Tree}
    {members : List (Key × Tree)}
    (isMember : (key, content) ∈ members)
    (isName : key.name.toOption = some name)
    (isField : record.fields.find? (·.name == name) = some field)
    (nothing : field.read.GetsNone levels content)
    (seen : List String)
    (state : σ) :
    (record.readMembers levels seen state members).toOption = none := by
  induction members generalizing seen state with
  | nil => cases isMember
  | cons first rest inductionHypothesis =>
      obtain ⟨firstKey, firstContent⟩ := first
      rw [toOption_readMembers_cons]
      rcases List.mem_cons.mp isMember with same | inRest
      · cases same
        have noUpdate : (field.read levels content).toOption = none := nothing
        simp [isName, isField, noUpdate]
      · simp only [inductionHypothesis inRest, Option.bind_fun_none, ite_self]
        cases firstKey.name.toOption with
        | none => rfl
        | some firstName =>
            rw [Option.bind_some]
            split <;> rfl

/-- The record of an object that ends and misses no field. -/
def whole?
    (record : Record σ)
    (ending : Ending)
    (found : List String × σ) :
    Option σ :=
  match ending with
  | .closed _ => if (record.missing? found.1).isNone then some found.2 else none
  | .failed _ _ _ => none

theorem whole?_congr
    {ending otherEnding : Ending}
    (same : ending.bare = otherEnding.bare) :
    record.whole? ending = record.whole? otherEnding := by
  funext found
  cases ending with
  | closed =>
      cases otherEnding with
      | closed => rfl
      | failed => cases same
  | failed =>
      cases otherEnding with
      | closed => cases same
      | failed => rfl

theorem toOption_decoder_object
    (levels start : Nat)
    (members : List (Key × Tree))
    (ending : Ending) :
    (record.decoder levels (.object start members ending)).toOption =
      (innerLevel? levels).bind fun inner =>
        (record.readMembers inner [] record.initial members).toOption.bind
          (record.whole? ending) := by
  rw [decoder, toOption_bind, toOption_openLevel]
  congr
  funext inner
  rw [toOption_bind]
  congr
  funext found
  cases ending with
  | failed => rfl
  | closed stop =>
      rw [whole?]
      dsimp only
      cases record.missing? found.1 <;> rfl

theorem getsSame_object
    {start otherStart : Nat}
    {members others : List (Key × Tree)}
    {ending otherEnding : Ending}
    (same : ∀ inner, levels = inner + 1 →
      List.Forall₂ (record.GetsSameMember inner) members others)
    (sameEnding : ending.bare = otherEnding.bare) :
    record.decoder.GetsSame levels (.object start members ending)
      (.object otherStart others otherEnding) := by
  rw [Decoder.GetsSame, toOption_decoder_object, toOption_decoder_object,
    whole?_congr sameEnding]
  refine bind_innerLevel?_congr fun inner isInner => ?_
  rw [toOption_readMembers_congr (same inner isInner)]

theorem getsNone_object
    {start : Nat}
    {key : Key}
    {name : String}
    {field : RecordField σ}
    {content : Tree}
    {members : List (Key × Tree)}
    {ending : Ending}
    (isMember : (key, content) ∈ members)
    (isName : key.name.toOption = some name)
    (isField : record.fields.find? (·.name == name) = some field)
    (nothing : ∀ inner, levels = inner + 1 → field.read.GetsNone inner content) :
    record.decoder.GetsNone levels (.object start members ending) := by
  rw [Decoder.GetsNone, toOption_decoder_object]
  refine bind_innerLevel?_eq_none fun inner isInner => ?_
  rw [toOption_readMembers_eq_none isMember isName isField (nothing inner isInner),
    Option.bind_none]

/-! ## Records in list form -/

/-- That fields get the same from two lists of items, each from the items at its place. -/
inductive GetsSameItems (levels : Nat) :
    List (RecordField σ) → List Tree → List Tree → Prop where
  | nil (fields : List (RecordField σ)) : GetsSameItems levels fields [] []
  | extra
      (item other : Tree)
      (items others : List Tree) :
      GetsSameItems levels [] (item :: items) (other :: others)
  | cons
      {field : RecordField σ}
      {fields : List (RecordField σ)}
      {item other : Tree}
      {items others : List Tree}
      (first : field.read.GetsSame levels item other)
      (rest : GetsSameItems levels fields items others) :
      GetsSameItems levels (field :: fields) (item :: items) (other :: others)

theorem GetsSameItems.refl
    (fields : List (RecordField σ))
    (items : List Tree) :
    GetsSameItems levels fields items items := by
  induction items generalizing fields with
  | nil => exact .nil fields
  | cons item items inductionHypothesis =>
      cases fields with
      | nil => exact .extra item item items items
      | cons field fields => exact .cons rfl (inductionHypothesis fields)

/-- Only the field at the place of a replaced item is asked. -/
theorem GetsSameItems.replace
    {fields : List (RecordField σ)}
    {field : RecordField σ}
    {front : List Tree}
    (isField : fields[front.length]? = some field)
    {item other : Tree}
    (same : field.read.GetsSame levels item other)
    (back : List Tree) :
    GetsSameItems levels fields (front ++ item :: back) (front ++ other :: back) := by
  induction front generalizing fields with
  | nil =>
      cases fields with
      | nil => cases isField
      | cons first fields =>
          obtain rfl := Option.some.inj isField
          exact .cons same (.refl fields back)
  | cons first front inductionHypothesis =>
      cases fields with
      | nil => cases isField
      | cons firstField fields => exact .cons rfl (inductionHypothesis isField)

/-- Where no items are left, the fields that are left must not be required. -/
theorem toOption_readItems_nil
    (levels : Nat)
    (ending : Ending)
    (count : Nat)
    (state : σ)
    (fields : List (RecordField σ)) :
    (record.readItems levels ending count state fields []).toOption =
      match ending with
      | .closed _ => if fields.any (·.required) then none else some state
      | .failed _ _ _ => none := by
  induction fields generalizing count with
  | nil => cases ending <;> rfl
  | cons field fields inductionHypothesis =>
      cases ending with
      | failed => rfl
      | closed stop =>
          rw [List.any_cons]
          cases isRequired : field.required with
          | true =>
              show Except.toOption (if field.required then _ else _) = _
              rw [isRequired]
              rfl
          | false =>
              show Except.toOption (if field.required then _ else _) = _
              rw [isRequired]
              exact inductionHypothesis (count + 1)

theorem toOption_readItems_cons
    (levels : Nat)
    (ending : Ending)
    (count : Nat)
    (state : σ)
    (field : RecordField σ)
    (fields : List (RecordField σ))
    (item : Tree)
    (items : List Tree) :
    (record.readItems levels ending count state (field :: fields)
        (item :: items)).toOption =
      (field.read levels item).toOption.bind fun update =>
        (record.readItems levels ending (count + 1) (update state) fields items).toOption :=
  toOption_bind _ _

theorem toOption_readItems_congr
    {fields : List (RecordField σ)}
    {items others : List Tree}
    (same : GetsSameItems levels fields items others)
    {ending otherEnding : Ending}
    (sameEnding : ending.bare = otherEnding.bare)
    (count : Nat)
    (state : σ) :
    (record.readItems levels ending count state fields items).toOption =
      (record.readItems levels otherEnding count state fields others).toOption := by
  induction same generalizing count state with
  | nil =>
      rw [toOption_readItems_nil, toOption_readItems_nil]
      cases ending <;> cases otherEnding <;> first | rfl | cases sameEnding
  | extra => rfl
  | cons first _ inductionHypothesis =>
      rw [Decoder.GetsSame] at first
      simp only [toOption_readItems_cons, first, inductionHypothesis]

theorem toOption_readItems_eq_none
    {fields : List (RecordField σ)}
    {field : RecordField σ}
    {front : List Tree}
    (isField : fields[front.length]? = some field)
    {item : Tree}
    (nothing : field.read.GetsNone levels item)
    (back : List Tree)
    (ending : Ending)
    (count : Nat)
    (state : σ) :
    (record.readItems levels ending count state fields
      (front ++ item :: back)).toOption = none := by
  induction front generalizing fields count state with
  | nil =>
      cases fields with
      | nil => cases isField
      | cons first fields =>
          obtain rfl := Option.some.inj isField
          rw [Decoder.GetsNone] at nothing
          rw [List.nil_append, toOption_readItems_cons, nothing, Option.bind_none]
  | cons first front inductionHypothesis =>
      cases fields with
      | nil => cases isField
      | cons firstField fields =>
          simp only [List.cons_append, toOption_readItems_cons,
            inductionHypothesis isField, Option.bind_fun_none]

theorem toOption_decoder_array
    (levels start : Nat)
    (items : List Tree)
    (ending : Ending) :
    (record.decoder levels (.array start items ending)).toOption =
      (innerLevel? levels).bind fun inner =>
        (record.readItems inner ending 0 record.initial record.fields items).toOption := by
  rw [decoder, toOption_bind, toOption_openLevel]

theorem getsSame_array
    {start otherStart : Nat}
    {items others : List Tree}
    {ending otherEnding : Ending}
    (same : ∀ inner, levels = inner + 1 → GetsSameItems inner record.fields items others)
    (sameEnding : ending.bare = otherEnding.bare) :
    record.decoder.GetsSame levels (.array start items ending)
      (.array otherStart others otherEnding) := by
  rw [Decoder.GetsSame, toOption_decoder_array, toOption_decoder_array]
  exact bind_innerLevel?_congr fun inner isInner =>
    toOption_readItems_congr (same inner isInner) sameEnding 0 record.initial

theorem getsNone_array
    {start : Nat}
    {field : RecordField σ}
    {front : List Tree}
    (isField : record.fields[front.length]? = some field)
    {item : Tree}
    (nothing : ∀ inner, levels = inner + 1 → field.read.GetsNone inner item)
    (back : List Tree)
    (ending : Ending) :
    record.decoder.GetsNone levels (.array start (front ++ item :: back) ending) := by
  rw [Decoder.GetsNone, toOption_decoder_array]
  exact bind_innerLevel?_eq_none fun inner isInner =>
    toOption_readItems_eq_none isField (nothing inner isInner) back ending 0 _

end Record

/-! ## Trees without their places -/

/-- That a decoder gets the same from a tree and the bare tree, below a number of levels. -/
def Decoder.PlacelessBelow
    (depth : Nat)
    (decoder : Decoder α) :
    Prop :=
  ∀ levels < depth, ∀ tree, decoder.GetsSame levels tree tree.bare

theorem forall₂_bareItems
    {same : Tree → Tree → Prop}
    (isSo : ∀ item : Tree, same item item.bare)
    (items : List Tree) :
    List.Forall₂ same items (Tree.bareItems items) := by
  rw [Tree.bareItems_eq_map, List.forall₂_map_right_iff, List.forall₂_same]
  exact fun item _ => isSo item

theorem Record.getsSameItems_bareItems
    {fields : List (RecordField σ)}
    (same : ∀ field ∈ fields, ∀ tree : Tree, field.read.GetsSame levels tree tree.bare)
    (items : List Tree) :
    Record.GetsSameItems levels fields items (Tree.bareItems items) := by
  induction items generalizing fields with
  | nil => exact .nil fields
  | cons item items inductionHypothesis =>
      cases fields with
      | nil => exact .extra _ _ _ _
      | cons field fields =>
          obtain ⟨first, others⟩ := List.forall_mem_cons.mp same
          exact .cons (first item) (inductionHypothesis others)

theorem Record.getsSameMembers_bareMembers
    {record : Record σ}
    (same : ∀ field ∈ record.fields, ∀ tree : Tree,
      field.read.GetsSame levels tree tree.bare)
    (members : List (Key × Tree)) :
    List.Forall₂ (record.GetsSameMember levels) members (Tree.bareMembers members) := by
  rw [Tree.bareMembers_eq_map, List.forall₂_map_right_iff, List.forall₂_same]
  intro member _
  exact
    { name := (toOption_bareOutcome _).symm
      skip := fun _ _ _ => (Tree.toOption_skip_bare _).symm
      read := fun _ field _ found => same field (List.mem_of_find?_eq_some found) _ }

theorem Ending.bare_bare (ending : Ending) : ending.bare.bare = ending.bare := by
  cases ending <;> rfl

/-- No decoder that is built up as those of a dump are asks for places. -/
theorem Decoder.PlacelessBelow.compositional :
    Decoder.Compositional @Decoder.PlacelessBelow where
  zero _ levels below := (Nat.not_lt_zero levels below).elim
  mono isSo le levels below := isSo levels (Nat.lt_of_lt_of_le below le)
  textAs _ expected _ _ tree :=
    Decoder.SteadyBelow.textAs (tree.nesting + 1) expected tree (tree.nesting + 1)
      (tree.nesting + 1) (Nat.lt_succ_self _) (Nat.lt_succ_self _) (Nat.lt_succ_self _)
  natUpTo _ bound expected _ _ tree :=
    Decoder.SteadyBelow.natUpTo (tree.nesting + 1) bound expected tree (tree.nesting + 1)
      (tree.nesting + 1) (Nat.lt_succ_self _) (Nat.lt_succ_self _) (Nat.lt_succ_self _)
  value _ _ _ tree := tree.toOption_readValue_bare (.inl rfl)
  map isSo change levels below tree := (isSo levels below tree).map change
  optional isSo levels below tree := by
    have same := isSo levels below tree
    rw [GetsSame] at same
    cases tree with
    | null => rfl
    | bool | number | string | array | object | broken =>
        simp only [GetsSame, Decoder.optional, toOption_map, same, Tree.bare]
  list isSo levels below tree := by
    cases tree with
    | array start items ending =>
        refine Decoder.getsSame_list ?_ ending.bare_bare.symm
        rintro inner rfl
        exact forall₂_bareItems (isSo inner (Nat.lt_of_succ_lt_succ below)) items
    | null | bool | number | string | object | broken => rfl
  ofRecord fields levels below tree := by
    cases tree with
    | object start members ending =>
        refine Record.getsSame_object ?_ ending.bare_bare.symm
        rintro inner rfl
        exact Record.getsSameMembers_bareMembers
          (fun field isField => fields field isField inner (Nat.lt_of_succ_lt_succ below))
          members
    | array start items ending =>
        refine Record.getsSame_array ?_ ending.bare_bare.symm
        rintro inner rfl
        exact Record.getsSameItems_bareItems
          (fun field isField => fields field isField inner (Nat.lt_of_succ_lt_succ below))
          items
    | null | bool | number | string | broken => rfl

end ApiTree.Json
