import ApiTree.Proofs.Json.Replacing
import Mathlib.Data.List.Nodup
import Mathlib.Data.List.Pairwise

namespace ApiTree.Json

open Reads (toOption_bind)

/-!
# Nulls that can be left out

The fields of a record change different parts of it, so what a field does to it can as
well be done first, when every field is still as it is without a member.  A field that
reads null as what is there already then does nothing at all, and its member can be left
out, wherever it stands; in list form, if it is the last item.
-/

variable
    {σ : Type}
    {levels : Nat}

/-- That it does not matter which of two fields changes a record first. -/
structure RecordField.Swaps (one other : RecordField σ) : Prop where
  swap
    {levels otherLevels : Nat}
    {tree otherTree : Tree}
    {change otherChange : σ → σ}
    (isChange : one.read levels tree = .ok change)
    (isOther : other.read otherLevels otherTree = .ok otherChange)
    (state : σ) :
    change (otherChange state) = otherChange (change state)

instance : Std.Symm (RecordField.Swaps (σ := σ)) :=
  ⟨fun _ _ swaps => ⟨fun isChange isOther state =>
    (swaps.swap isOther isChange state).symm⟩⟩

namespace Record

/-- That the fields of a record have names of their own and change parts of their own. -/
structure Orderly (record : Record σ) : Prop where
  distinct : (record.fields.map (·.name)).Nodup
  swap : record.fields.Pairwise RecordField.Swaps

/-- That a field reads null as the record is without the field. -/
structure NullIsAbsent
    (record : Record σ)
    (field : RecordField σ) :
    Prop where
  notRequired : field.required = false
  keeps : ∃ change, change record.initial = record.initial ∧
    ∀ levels start stop, field.read levels (.null start stop) = .ok change

variable
    {record : Record σ}
    {field : RecordField σ}
    {name : String}

theorem Orderly.eq_of_name_eq
    {other : RecordField σ}
    (orderly : record.Orderly)
    (isField : field ∈ record.fields)
    (isOther : other ∈ record.fields)
    (same : other.name = field.name) :
    other = field :=
  List.inj_on_of_nodup_map orderly.distinct isOther isField same

theorem Orderly.find?_eq_some
    (orderly : record.Orderly)
    (isField : field ∈ record.fields) :
    record.fields.find? (·.name == field.name) = some field := by
  cases found : record.fields.find? (·.name == field.name) with
  | none => simpa using List.find?_eq_none.mp found field isField
  | some other =>
      have sameName : other.name = field.name := by simpa using List.find?_some found
      rw [orderly.eq_of_name_eq isField (List.mem_of_find?_eq_some found) sameName]

theorem Orderly.getElem?_eq_some
    {place : Nat}
    (orderly : record.Orderly)
    (isField : field ∈ record.fields)
    (isPlace : (record.fields.map (·.name))[place]? = some field.name) :
    record.fields[place]? = some field := by
  rw [List.getElem?_map] at isPlace
  obtain ⟨other, isOther, sameName⟩ := Option.map_eq_some_iff.mp isPlace
  rw [isOther, orderly.eq_of_name_eq isField (List.mem_of_getElem? isOther) sameName]

theorem Orderly.swaps
    {other : RecordField σ}
    (orderly : record.Orderly)
    (isField : field ∈ record.fields)
    (isOther : other ∈ record.fields)
    (differs : other ≠ field) :
    other.Swaps field :=
  orderly.swap.forall isOther isField differs

theorem missing?_congr
    (optional : ∀ other ∈ record.fields, other.name = name → other.required = false)
    {seen others : List String}
    (same : ∀ other, other ≠ name → seen.contains other = others.contains other) :
    record.missing? seen = record.missing? others := by
  have samePart : ∀ other ∈ record.fields,
      (other.required && !seen.contains other.name) =
        (other.required && !others.contains other.name) := by
    intro other isOther
    by_cases isName : other.name = name
    · rw [optional other isOther isName, Bool.false_and, Bool.false_and]
    · rw [same other.name isName]
  rw [missing?, missing?, ← List.head?_filter, ← List.head?_filter,
    List.filter_congr samePart]

/-- A name that no member has may have been seen or not, if its field is not required. -/
theorem whole?_readMembers_congr
    (optional : ∀ other ∈ record.fields, other.name = name → other.required = false)
    {members : List (Key × Tree)}
    (nowhere : ∀ member ∈ members, member.1.name.toOption ≠ some name)
    {seen others : List String}
    (same : ∀ other, other ≠ name → seen.contains other = others.contains other)
    (state : σ)
    (ending : Ending) :
    (record.readMembers levels seen state members).toOption.bind (record.whole? ending) =
      (record.readMembers levels others state members).toOption.bind
        (record.whole? ending) := by
  induction members generalizing seen others state with
  | nil =>
      show record.whole? ending (seen, state) = record.whole? ending (others, state)
      cases ending with
      | failed => rfl
      | closed => rw [whole?, whole?, missing?_congr optional same]
  | cons member rest inductionHypothesis =>
      obtain ⟨key, content⟩ := member
      obtain ⟨notName, restNowhere⟩ := List.forall_mem_cons.mp nowhere
      rw [toOption_readMembers_cons, toOption_readMembers_cons]
      cases isKey : key.name.toOption with
      | none => rfl
      | some other =>
          have differs : other ≠ name := by
            rintro rfl
            exact notName isKey
          rw [Option.bind_some, Option.bind_some]
          cases record.fields.find? (·.name == other) with
          | none =>
              cases record.skipsUnknown with
              | false => rfl
              | true =>
                  simp only [if_true, Option.bind_assoc,
                    inductionHypothesis restNowhere same]
          | some field =>
              have sameRest : ∀ another, another ≠ name →
                  (other :: seen).contains another = (other :: others).contains another :=
                fun another isOther => by
                  rw [List.contains_cons, List.contains_cons, same another isOther]
              simp only [same other differs]
              split
              · rfl
              · simp only [Option.bind_assoc, inductionHypothesis restNowhere sameRest]

/-- A null that changes nothing can be left out among the members that are read. -/
theorem whole?_readMembers_leaveOut
    (orderly : record.Orderly)
    (isField : field ∈ record.fields)
    (notRequired : field.required = false)
    {change : σ → σ}
    {start stop : Nat}
    (isChange : field.read levels (.null start stop) = .ok change)
    {front back : List (Key × Tree)}
    {key : Key}
    (isName : key.name.toOption = some field.name)
    (nowhereElse : ∀ member ∈ front ++ back, member.1.name.toOption ≠ some field.name)
    {seen : List String}
    (notSeen : seen.contains field.name = false)
    {state : σ}
    (keeps : change state = state)
    (ending : Ending) :
    (record.readMembers levels seen state
        (front ++ (key, .null start stop) :: back)).toOption.bind (record.whole? ending) =
      (record.readMembers levels seen state (front ++ back)).toOption.bind
        (record.whole? ending) := by
  -- Whatever a member in front changes, the null still changes nothing after it, since
  -- their fields can be swapped.
  induction front generalizing seen state with
  | nil =>
      have optional : ∀ other ∈ record.fields, other.name = field.name →
          other.required = false := by
        intro other isOther same
        rw [orderly.eq_of_name_eq isField isOther same, notRequired]
      have sameSeen : ∀ other, other ≠ field.name →
          (field.name :: seen).contains other = seen.contains other := by
        intro other differs
        rw [List.contains_cons, beq_eq_false_iff_ne.mpr differs, Bool.false_or]
      rw [List.nil_append, List.nil_append, toOption_readMembers_cons, isName,
        Option.bind_some, orderly.find?_eq_some isField]
      simp only [notSeen, isChange, Except.toOption, Option.bind_some, keeps]
      exact whole?_readMembers_congr optional nowhereElse sameSeen state ending
  | cons member front inductionHypothesis =>
      obtain ⟨firstKey, content⟩ := member
      obtain ⟨notName, restNowhere⟩ := List.forall_mem_cons.mp nowhereElse
      rw [List.cons_append, List.cons_append, toOption_readMembers_cons,
        toOption_readMembers_cons]
      cases isKey : firstKey.name.toOption with
      | none => rfl
      | some other =>
          have differs : field.name ≠ other := by
            rintro rfl
            exact notName isKey
          rw [Option.bind_some, Option.bind_some]
          cases found : record.fields.find? (·.name == other) with
          | none =>
              cases record.skipsUnknown with
              | false => rfl
              | true =>
                  simp only [if_true, Option.bind_assoc,
                    inductionHypothesis restNowhere notSeen keeps]
          | some otherField =>
              have isOther := List.mem_of_find?_eq_some found
              have otherName : otherField.name = other := by
                simpa using List.find?_some found
              simp only
              split
              · rfl
              · rw [Option.bind_assoc, Option.bind_assoc]
                cases isUpdate : otherField.read levels content with
                | error => rfl
                | ok update =>
                    have swaps : otherField.Swaps field :=
                      orderly.swaps isField isOther fun same => differs (same ▸ otherName)
                    refine inductionHypothesis restNowhere ?_ ?_
                    · rw [List.contains_cons, beq_eq_false_iff_ne.mpr differs, notSeen]
                      rfl
                    · rw [← swaps.swap isUpdate isChange state, keeps]

/-- A null that a field reads as absent can be left out. -/
theorem getsSame_leaveOut_member
    (orderly : record.Orderly)
    (isField : field ∈ record.fields)
    (absent : record.NullIsAbsent field)
    {front back : List (Key × Tree)}
    {key : Key}
    (isName : key.name.toOption = some field.name)
    (nowhereElse : ∀ member ∈ front ++ back, member.1.name.toOption ≠ some field.name)
    (levels start nullStart nullStop : Nat)
    (ending : Ending) :
    record.decoder.GetsSame levels
      (.object start (front ++ (key, .null nullStart nullStop) :: back) ending)
      (.object start (front ++ back) ending) := by
  obtain ⟨change, keeps, isChange⟩ := absent.keeps
  rw [Decoder.GetsSame, toOption_decoder_object, toOption_decoder_object]
  congr
  funext inner
  exact whole?_readMembers_leaveOut orderly isField absent.notRequired
    (isChange inner nullStart nullStop) isName nowhereElse rfl keeps ending

theorem toOption_readItems_leaveOut
    {fields : List (RecordField σ)}
    (swap : fields.Pairwise RecordField.Swaps)
    {items : List Tree}
    (isField : fields[items.length]? = some field)
    (notRequired : field.required = false)
    {change : σ → σ}
    {start stop : Nat}
    (isChange : field.read levels (.null start stop) = .ok change)
    {state : σ}
    (keeps : change state = state)
    (ending : Ending)
    (count : Nat) :
    (record.readItems levels ending count state fields
        (items ++ [.null start stop])).toOption =
      (record.readItems levels ending count state fields items).toOption := by
  induction items generalizing fields state count with
  | nil =>
      cases fields with
      | nil => cases isField
      | cons first fields =>
          obtain rfl := Option.some.inj isField
          rw [List.nil_append, toOption_readItems_cons, isChange, toOption_readItems_nil,
            List.any_cons, notRequired, Bool.false_or]
          simp only [Except.toOption, Option.bind_some, keeps]
          exact toOption_readItems_nil levels ending (count + 1) state fields
  | cons item items inductionHypothesis =>
      cases fields with
      | nil => cases isField
      | cons first fields =>
          obtain ⟨firstSwaps, restSwap⟩ := List.pairwise_cons.mp swap
          rw [List.cons_append, toOption_readItems_cons, toOption_readItems_cons]
          cases isUpdate : first.read levels item with
          | error => rfl
          | ok update =>
              have swaps : first.Swaps field :=
                firstSwaps field (List.mem_of_getElem? isField)
              refine inductionHypothesis restSwap isField ?_ (count + 1)
              rw [← swaps.swap isUpdate isChange state, keeps]

/-- A null at the end that a field reads as absent can be left out. -/
theorem getsSame_leaveOut_item
    (orderly : record.Orderly)
    (absent : record.NullIsAbsent field)
    {items : List Tree}
    (isField : record.fields[items.length]? = some field)
    (levels start nullStart nullStop : Nat)
    (ending : Ending) :
    record.decoder.GetsSame levels
      (.array start (items ++ [.null nullStart nullStop]) ending)
      (.array start items ending) := by
  obtain ⟨change, keeps, isChange⟩ := absent.keeps
  rw [Decoder.GetsSame, toOption_decoder_array, toOption_decoder_array]
  congr
  funext inner
  exact toOption_readItems_leaveOut orderly.swap isField absent.notRequired
    (isChange inner nullStart nullStop) keeps ending 0

end Record

end ApiTree.Json
