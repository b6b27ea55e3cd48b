import ApiTree.Decl.Words
import ApiTree.Proofs.Decl.Renaming

namespace ApiTree.Decl

/-!
# Numbers and words

Where numbers are counted without an end, words are cut off them.  So numbering with
words does what numbering does, up to the first number that has no word, and from there
on it has stopped, or its numbers start again at zero.
-/

/-- A step that needs room and one behind it need the room of both. -/
theorem bind_of_room
    {first second both : Prop}
    [Decidable first] [Decidable second] [Decidable both]
    {α β : Type}
    {step : Option α}
    {next : α → Option β}
    {value : α}
    {result : β}
    (step_eq : step = if first then some value else none)
    (next_eq : next value = if second then some result else none)
    (both_iff : both ↔ first ∧ second) :
    step.bind next = if both then some result else none := by
  by_cases hasFirst : first
  · simp [step_eq, next_eq, both_iff, hasFirst]
  · simp [step_eq, both_iff, hasFirst]

/-- What only follows a step that needs room needs the same room. -/
theorem bind_some_of_room
    {room : Prop}
    [Decidable room]
    {α β : Type}
    {step : Option α}
    {next : α → Option β}
    {value : α}
    {result : β}
    (step_eq : step = if room then some value else none)
    (next_eq : next value = some result) :
    step.bind next = if room then some result else none := by
  by_cases hasRoom : room
  · simp [step_eq, next_eq, hasRoom]
  · simp [step_eq, hasRoom]

namespace IdSupply

/-- Several numbers that are taken follow one another. -/
theorem takeMany_eq
    (count : Nat)
    (supply : IdSupply) :
    takeMany count supply =
      (List.range' supply.next count, ⟨supply.next + count⟩) := by
  induction count generalizing supply with
  | zero =>
      rfl
  | succ count inductionHypothesis =>
      simp only [takeMany, inductionHypothesis, take, List.range'_succ, Nat.add_right_comm,
        Nat.add_assoc]

@[simp] theorem overflow_inWords
    (overflow : Overflow)
    (supply : IdSupply) :
    (supply.inWords overflow).overflow = overflow :=
  rfl

@[simp] theorem toNat_next_inWords
    (overflow : Overflow)
    (supply : IdSupply) :
    (supply.inWords overflow).next.toNat = supply.next % UInt32.size :=
  UInt32.toNat_ofNat

end IdSupply

namespace WordSupply

/-- Every supply of words is one of numbers that is kept in a word. -/
theorem inWords_toNat (supply : WordSupply) :
    IdSupply.inWords supply.overflow ⟨supply.next.toNat⟩ = supply := by
  simp [IdSupply.inWords]

/-- That so many words can be taken: if counting stops, all come before the largest one. -/
def HasRoom
    (supply : WordSupply)
    (count : Nat) :
    Prop :=
  supply.overflow = .stops → supply.next.toNat + count < UInt32.size

instance (supply : WordSupply) (count : Nat) : Decidable (supply.HasRoom count) :=
  inferInstanceAs (Decidable (_ → _))

theorem hasRoom_zero (supply : WordSupply) : supply.HasRoom 0 :=
  fun _ => supply.next.toNat_lt

/-- There is no room only where counting stops. -/
theorem not_hasRoom_iff
    {supply : WordSupply}
    {count : Nat} :
    ¬ supply.HasRoom count ↔
      supply.overflow = .stops ∧ UInt32.size ≤ supply.next.toNat + count := by
  rw [HasRoom, Classical.not_imp, Nat.not_lt]

/-- There is room for all if there is room for the first ones and then for the others. -/
theorem hasRoom_add
    (overflow : Overflow)
    (supply : IdSupply)
    (first second : Nat) :
    (supply.inWords overflow).HasRoom (first + second) ↔
      (supply.inWords overflow).HasRoom first ∧
        (IdSupply.inWords overflow ⟨supply.next + first⟩).HasRoom second := by
  have isWord : supply.next % UInt32.size < UInt32.size := Nat.mod_lt _ (by decide)
  simp only [HasRoom, IdSupply.overflow_inWords, IdSupply.toNat_next_inWords, ← imp_and]
  refine imp_congr_right fun _ => ?_
  simp only [UInt32.size] at isWord ⊢
  omega

theorem take?_inWords
    (overflow : Overflow)
    (supply : IdSupply) :
    (supply.inWords overflow).take? =
      if (supply.inWords overflow).HasRoom 1 then
        some (.ofNat supply.next, supply.take.2.inWords overflow)
      else
        none := by
  have isWord := (supply.inWords overflow).next.toNat_lt
  have next_eq : (supply.inWords overflow).next + 1 = .ofNat (supply.next + 1) :=
    (UInt32.ofNat_add _ _).symm
  have stops_iff :
      ((supply.inWords overflow).overflow = .stops ∧
          (supply.inWords overflow).next.toNat + 1 = UInt32.size) ↔
        ¬ (supply.inWords overflow).HasRoom 1 := by
    rw [not_hasRoom_iff]
    refine and_congr_right fun _ => ?_
    simp only [UInt32.size] at isWord ⊢
    omega
  simp only [take?, next_eq, stops_iff, ite_not]
  rfl

/--
Several words that are taken are those of the numbers that would be taken, and of no other
numbers, unless counting stops and they do not all come before the largest word.
-/
theorem takeMany?_inWords
    (overflow : Overflow)
    (count : Nat)
    (supply : IdSupply) :
    (supply.inWords overflow).takeMany? count =
      if (supply.inWords overflow).HasRoom count then
        some ((IdSupply.takeMany count supply).1.map .ofNat,
          (IdSupply.takeMany count supply).2.inWords overflow)
      else
        none := by
  induction count generalizing supply with
  | zero =>
      rw [if_pos (hasRoom_zero _)]
      rfl
  | succ count inductionHypothesis =>
      refine bind_of_room (take?_inWords overflow supply)
        (bind_some_of_room (inductionHypothesis supply.take.2) ?_) ?_
      · rfl
      · rw [Nat.add_comm count]
        exact hasRoom_add overflow supply 1 count

/-- As long as the numbers are words, the words grow with them. -/
theorem pairwise_lt_words
    {first count : Nat}
    (fits : first + count ≤ UInt32.size) :
    ((List.range' first count).map UInt32.ofNat).Pairwise (· < ·) := by
  have increasing : (List.range' first count).Pairwise (· < ·) := List.pairwise_lt_range'
  refine List.pairwise_map.mpr (increasing.imp_of_mem ?_)
  intro one other isOne isOther lt
  rw [List.mem_range'_1] at isOne isOther
  rw [UInt32.lt_iff_toNat_lt, UInt32.toNat_ofNat_of_lt' (by omega),
    UInt32.toNat_ofNat_of_lt' (by omega)]
  exact lt

end WordSupply

namespace Renumbering

/-- Keeps of every new number the word only. -/
def cut (numbers : Renumbering) : Renumbering :=
  numbers.map fun pair => (pair.1, pair.2 % UInt32.size)

theorem cut_append (first second : Renumbering) :
    cut (first ++ second) = first.cut ++ second.cut :=
  List.map_append

end Renumbering

namespace Declaration

/-- Keeps of every number the word only. -/
def cut (declaration : Declaration) : Declaration :=
  declaration.mapInfo fun info => { info with id := info.id % UInt32.size }

theorem cut_node
    (info : Info)
    (children signatures parameters : List Declaration) :
    (node info children signatures parameters).cut =
      .node { info with id := info.id % UInt32.size } (children.map cut)
        (signatures.map cut) (parameters.map cut) :=
  mapInfo_node _ _ _ _ _

/-- That numbering with words gives what numbering gives, cut to words, if there is room. -/
def CutsTo
    {α : Type}
    (cut : α → α)
    (supply : WordSupply)
    (count : Nat)
    (outcome : Option (α × Renumbering × WordSupply))
    (result : α × Renumbering × IdSupply) :
    Prop :=
  outcome =
    if supply.HasRoom count then
      some (cut result.1, result.2.1.cut, result.2.2.inWords supply.overflow)
    else
      none

theorem cutsTo_assignAll
    {overflow : Overflow}
    {declarations : List Declaration}
    (each : ∀ one ∈ declarations, ∀ supply,
      CutsTo cut (IdSupply.inWords overflow supply) one.ids.length
        (one.assignInWords? (supply.inWords overflow)) (one.assign supply))
    (supply : IdSupply) :
    CutsTo (List.map cut) (supply.inWords overflow) (declarations.flatMap ids).length
      (assignAllInWords? (supply.inWords overflow) declarations)
      (assignAll supply declarations) := by
  induction declarations generalizing supply with
  | nil =>
      exact (if_pos (WordSupply.hasRoom_zero _)).symm
  | cons first rest inductionHypothesis =>
      have rest_eq := (numbersNext_assign first supply).rest_eq
      have inRest := inductionHypothesis
        (fun one member => each one (List.mem_cons_of_mem _ member))
        (first.assign supply).2.2
      refine bind_of_room (each first List.mem_cons_self supply)
        (bind_some_of_room inRest ?_) ?_
      · rw [assignAll, Renumbering.cut_append]
        rfl
      · rw [List.flatMap_cons, List.length_append, rest_eq]
        exact WordSupply.hasRoom_add overflow supply _ _

/-- Numbering three lists one after the other, and what is made of them then. -/
theorem cutsTo_assignAll_three
    {overflow : Overflow}
    (children signatures parameters : List Declaration)
    (each : ∀ one ∈ children ++ (signatures ++ parameters), ∀ supply,
      CutsTo cut (IdSupply.inWords overflow supply) one.ids.length
        (one.assignInWords? (supply.inWords overflow)) (one.assign supply))
    (supply : IdSupply)
    {α : Type}
    (make : List Declaration → List Declaration → List Declaration → Renumbering →
      WordSupply → α) :
    let inChildren := assignAll supply children
    let inSignatures := assignAll inChildren.2.2 signatures
    let inParameters := assignAll inSignatures.2.2 parameters
    ((assignAllInWords? (supply.inWords overflow) children).bind fun first =>
      (assignAllInWords? first.2.2 signatures).bind fun second =>
        (assignAllInWords? second.2.2 parameters).bind fun third =>
          some (make first.1 second.1 third.1 (first.2.1 ++ (second.2.1 ++ third.2.1))
            third.2.2)) =
      if (supply.inWords overflow).HasRoom
          (children.flatMap ids ++
            (signatures.flatMap ids ++ parameters.flatMap ids)).length then
        some (make (inChildren.1.map cut) (inSignatures.1.map cut) (inParameters.1.map cut)
          (Renumbering.cut
            (inChildren.2.1 ++ (inSignatures.2.1 ++ inParameters.2.1)))
          (inParameters.2.2.inWords overflow))
      else
        none := by
  intro inChildren inSignatures inParameters
  have afterChildren : inChildren.2.2 = ⟨supply.next + (children.flatMap ids).length⟩ :=
    (numbersNext_assignAll (fun one _ => numbersNext_assign one) supply).rest_eq
  have afterSignatures :
      inSignatures.2.2 = ⟨inChildren.2.2.next + (signatures.flatMap ids).length⟩ :=
    (numbersNext_assignAll (fun one _ => numbersNext_assign one) _).rest_eq
  have childrenRoom := WordSupply.hasRoom_add overflow supply
    (children.flatMap ids).length
    (signatures.flatMap ids ++ parameters.flatMap ids).length
  have signaturesRoom := WordSupply.hasRoom_add overflow inChildren.2.2
    (signatures.flatMap ids).length (parameters.flatMap ids).length
  rw [← List.length_append] at childrenRoom signaturesRoom
  rw [← afterChildren] at childrenRoom
  rw [← afterSignatures] at signaturesRoom
  refine bind_of_room
    (cutsTo_assignAll (fun one member => each one (by simp [member])) supply) ?_ childrenRoom
  refine bind_of_room
    (cutsTo_assignAll (fun one member => each one (by simp [member])) inChildren.2.2) ?_
    signaturesRoom
  refine bind_some_of_room
    (cutsTo_assignAll (fun one member => each one (by simp [member])) inSignatures.2.2) ?_
  simp only [Renumbering.cut_append, IdSupply.overflow_inWords]
  rfl

/-- Numbering a declaration with words. -/
theorem cutsTo_assign
    (overflow : Overflow)
    (declaration : Declaration)
    (supply : IdSupply) :
    CutsTo cut (supply.inWords overflow) declaration.ids.length
      (declaration.assignInWords? (supply.inWords overflow)) (declaration.assign supply) := by
  induction declaration using ownedInduction generalizing supply with
  | node info children signatures parameters
      childrenHold signaturesHold parametersHold =>
      have each (one : Declaration)
          (member : one ∈ children ++ (signatures ++ parameters)) (supply : IdSupply) :
          CutsTo cut (supply.inWords overflow) one.ids.length
            (one.assignInWords? (supply.inWords overflow)) (one.assign supply) := by
        rcases List.mem_append.mp member with inChildren | inOthers
        · exact childrenHold one inChildren supply
        · rcases List.mem_append.mp inOthers with inSignatures | inParameters
          · exact signaturesHold one inSignatures supply
          · exact parametersHold one inParameters supply
      let fresh : UInt32 := .ofNat supply.next
      have owned := cutsTo_assignAll_three children signatures parameters each
        supply.take.2
        fun newChildren newSignatures newParameters numbers rest =>
          (node { info with id := fresh.toNat } newChildren newSignatures newParameters,
            (info.id, fresh.toNat) :: numbers, rest)
      have room := WordSupply.hasRoom_add overflow supply 1
        (children.flatMap ids ++
          (signatures.flatMap ids ++ parameters.flatMap ids)).length
      rw [Nat.add_comm, ← List.length_cons (a := info.id)] at room
      rw [CutsTo, ids_node, assign, cut_node]
      exact bind_of_room (WordSupply.take?_inWords overflow supply) owned room

/-- Numbering with words what a declaration owns. -/
theorem cutsTo_assignOwned
    (overflow : Overflow)
    (declaration : Declaration)
    (supply : IdSupply) :
    CutsTo (fun numbered => numbered.cut.updateInfo fun info =>
        { info with id := declaration.id })
      (supply.inWords overflow) declaration.ownedIds.length
      (declaration.assignOwnedInWords? (supply.inWords overflow))
      (declaration.assignOwned supply) := by
  cases declaration with
  | node info children signatures parameters =>
      have owned := cutsTo_assignAll_three children signatures parameters
        (fun one _ => cutsTo_assign overflow one) supply
        fun newChildren newSignatures newParameters numbers rest =>
          (node info newChildren newSignatures newParameters, numbers, rest)
      rw [CutsTo, ownedIds_eq, assignOwned, cut_node, updateInfo]
      exact owned

end Declaration

end ApiTree.Decl
