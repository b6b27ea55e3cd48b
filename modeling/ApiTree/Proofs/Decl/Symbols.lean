import ApiTree.Decl.Written
import ApiTree.Proofs.Decl.Numbering

namespace ApiTree.Decl

/-!
# Symbols of numbers

A table of symbols holds its numbers in increasing order, each once.  Recording a
number changes what is looked up under that number and under no other.  If every
copy then gets the symbol of what it is a copy of, a table that knows the nodes of
a tree by their names knows those of the copy by theirs.
-/

namespace SymbolTable

variable
    {table : SymbolTable}
    {id number : DeclId}
    {symbol : Symbol}

/-- The numbers that a table has symbols for. -/
def numbers (table : SymbolTable) : List DeclId :=
  table.map (·.1)

/-- That the numbers of a table increase. -/
def Ordered (table : SymbolTable) : Prop :=
  table.Pairwise fun earlier later => earlier.1 < later.1

@[simp] theorem mem_numbers_record_iff :
    number ∈ (table.record id symbol).numbers ↔
      number = id ∨ number ∈ table.numbers := by
  induction table with
  | nil =>
      simp [record, numbers]
  | cons first rest inductionHypothesis =>
      unfold numbers at inductionHypothesis
      simp only [record, numbers]
      split
      · simp
      · split
        · rename_i sameId
          simp [sameId]
        · simp only [List.map_cons, List.mem_cons, inductionHypothesis,
            or_left_comm]

/-- Recording keeps numbers in order. -/
theorem Ordered.record
    (ordered : table.Ordered) :
    (table.record id symbol).Ordered := by
  induction table with
  | nil =>
      exact List.pairwise_singleton _ _
  | cons first rest inductionHypothesis =>
      obtain ⟨firstLeast, restOrdered⟩ := List.pairwise_cons.mp ordered
      simp only [SymbolTable.record]
      split
      · rename_i isLess
        refine List.pairwise_cons.mpr ⟨?_, ordered⟩
        refine List.forall_mem_cons.mpr ⟨isLess, fun entry isEntry => ?_⟩
        exact Nat.lt_trans isLess (firstLeast entry isEntry)
      · split
        · rename_i sameId
          exact List.pairwise_cons.mpr
            ⟨fun entry isEntry => sameId ▸ firstLeast entry isEntry, restOrdered⟩
        · rename_i notLess differs
          refine List.pairwise_cons.mpr ⟨?_, inductionHypothesis restOrdered⟩
          intro entry isEntry
          have isNumber : entry.1 ∈ (SymbolTable.record id symbol rest).numbers :=
            List.mem_map_of_mem isEntry
          rcases mem_numbers_record_iff.mp isNumber with isId | inRest
          · have less : first.1 < id :=
              Nat.lt_of_le_of_ne (Nat.le_of_not_lt notLess) (Ne.symm differs)
            exact isId ▸ less
          · obtain ⟨other, isOther, sameNumber⟩ := List.mem_map.mp inRest
            exact sameNumber ▸ firstLeast other isOther

@[simp] theorem lookup_record_self :
    (table.record id symbol).lookup id = some symbol := by
  induction table with
  | nil =>
      simp [record]
  | cons first rest inductionHypothesis =>
      simp only [record]
      split
      · simp
      · split
        · simp
        · rename_i differs
          rw [List.lookup_cons, beq_eq_false_iff_ne.mpr differs]
          exact inductionHypothesis

/-- Recording leaves what is looked up under other numbers. -/
theorem lookup_record_of_ne
    (other : number ≠ id) :
    (table.record id symbol).lookup number = table.lookup number := by
  have notOther : (number == id) = false := beq_eq_false_iff_ne.mpr other
  induction table with
  | nil =>
      simp [record, List.lookup_cons, notOther]
  | cons first rest inductionHypothesis =>
      simp only [record]
      split
      · rw [List.lookup_cons, notOther]
      · split
        · rename_i sameId
          rw [List.lookup_cons, List.lookup_cons, notOther, ← sameId, notOther]
        · rw [List.lookup_cons, List.lookup_cons, inductionHypothesis]

/-- What is looked up among the entries whose numbers are kept. -/
theorem lookup_filter
    {keeps : DeclId → Bool}
    (kept : keeps number = true) :
    (table.filter fun entry => keeps entry.1).lookup number =
      table.lookup number := by
  induction table with
  | nil =>
      rfl
  | cons first rest inductionHypothesis =>
      cases isKept : keeps first.1 with
      | true =>
          rw [List.filter_cons_of_pos (by simpa using isKept), List.lookup_cons,
            List.lookup_cons, inductionHypothesis]
      | false =>
          have differs : (number == first.1) = false := by
            refine beq_eq_false_iff_ne.mpr ?_
            rintro rfl
            rw [kept] at isKept
            cases isKept
          rw [List.filter_cons_of_neg (by simp [isKept]), List.lookup_cons,
            differs, inductionHypothesis]

theorem mem_numbers_of_lookup
    (looked : table.lookup number = some symbol) :
    number ∈ table.numbers := by
  obtain ⟨front, back, rfl, -⟩ := List.lookup_eq_some_iff.mp looked
  simp [numbers]

/-- That a table knows a declaration by its name. -/
def Knows
    (table : SymbolTable)
    (info : Info) :
    Prop :=
  ∃ symbol, table.lookup info.id = some symbol ∧ symbol.name = info.name

/-- A declaration is known if one of its number and name was and is looked up alike. -/
theorem Knows.of_lookup_eq
    {other : SymbolTable}
    {info changed : Info}
    (knows : table.Knows info)
    (sameLookup : other.lookup changed.id = table.lookup info.id)
    (sameName : changed.name = info.name) :
    other.Knows changed := by
  obtain ⟨symbol, looked, isName⟩ := knows
  exact ⟨symbol, sameLookup.trans looked, isName.trans sameName.symm⟩

theorem knows_record
    {info : Info}
    (isName : symbol.name = info.name) :
    (table.record info.id symbol).Knows info :=
  ⟨symbol, lookup_record_self, isName⟩

end SymbolTable

namespace Renumbering

/-- If no old number repeats, the last pair of each is every pair. -/
theorem keepLast_of_nodup
    {numbers : Renumbering}
    (distinct : (numbers.map (·.1)).Nodup) :
    numbers.keepLast = numbers := by
  induction numbers with
  | nil =>
      rfl
  | cons first rest inductionHypothesis =>
      obtain ⟨notInRest, restDistinct⟩ := List.nodup_cons.mp distinct
      have isLast : rest.any (·.1 == first.1) = false := by
        refine List.any_eq_false.mpr fun pair isPair => ?_
        have differs : pair.1 ≠ first.1 := fun same =>
          notInRest (List.mem_map.mpr ⟨pair, isPair, same⟩)
        simpa using differs
      simp only [keepLast, isLast, Bool.false_eq_true, ↓reduceIte,
        inductionHypothesis restDistinct]

/-- Distinct numbers are numbered once each, so every pair is reported. -/
theorem Pairs.keepLast_eq
    {numbers : Renumbering}
    {old new : List DeclId}
    (pairs : numbers.Pairs old new)
    (distinct : old.Nodup) :
    numbers.keepLast = numbers :=
  keepLast_of_nodup (pairs.map_fst_eq ▸ distinct)

end Renumbering

namespace Declaration.NumbersNext

variable
    {supply rest : IdSupply}
    {old new : List DeclId}
    {numbers : Renumbering}

/-- Each old number is paired with the number it is renamed to. -/
theorem pair_mem
    (numbering : NumbersNext supply rest old new numbers)
    (distinct : old.Nodup)
    {number : DeclId}
    (isOld : number ∈ old) :
    (number, numbers.apply number) ∈ numbers := by
  rw [← numbering.pairs.map_fst_eq] at isOld
  obtain ⟨pair, isPair, rfl⟩ := List.mem_map.mp isOld
  rw [numbering.pairs.apply_eq distinct isPair]
  exact isPair

/-- An old number is renamed to one that was free. -/
theorem le_apply
    (numbering : NumbersNext supply rest old new numbers)
    (distinct : old.Nodup)
    {number : DeclId}
    (isOld : number ∈ old) :
    supply.next ≤ numbers.apply number := by
  have isNew : numbers.apply number ∈ numbers.map (·.2) :=
    List.mem_map_of_mem (numbering.pair_mem distinct isOld)
  rw [numbering.pairs.map_snd_eq] at isNew
  exact numbering.le_of_mem isNew

end Declaration.NumbersNext

namespace Declaration

variable
    {declaration : Declaration}

/-- Every node of a copied tree is reported once. -/
theorem copies_renumber
    (distinct : declaration.ids.Nodup)
    (supply : IdSupply) :
    (declaration.renumber supply).2.1 = (declaration.assign supply).2.1 :=
  (numbersNext_assign declaration supply).pairs.keepLast_eq distinct

theorem copies_renumberOwned
    (distinct : declaration.ownedIds.Nodup)
    (supply : IdSupply) :
    (declaration.renumberOwned supply).2.1 =
      (declaration.assignOwned supply).2.1 :=
  (numbersNext_assignOwned declaration supply).pairs.keepLast_eq distinct

end Declaration

end ApiTree.Decl
