import ApiTree.Decl.Renumber

namespace ApiTree.Decl

/-!
# Numbers in words

The number of a declaration is a word of 32 bits, and so is the next number of a
supply.  What happens when the largest word is taken depends on how the program was
built: arithmetic that is checked stops there, any other goes on with zero.
-/

/-- What counting does behind the largest word. -/
inductive Overflow where
  | stops
  | wraps
  deriving Repr, DecidableEq

/-- The words that are still free: this one and those that come next. -/
structure WordSupply where
  next : UInt32
  overflow : Overflow
  deriving Repr, DecidableEq

/-- A supply as it is kept in a word. -/
def IdSupply.inWords
    (overflow : Overflow)
    (supply : IdSupply) :
    WordSupply :=
  ⟨.ofNat supply.next, overflow⟩

namespace WordSupply

/-- Takes the next word, unless counting on from it stops. -/
def take? (supply : WordSupply) : Option (UInt32 × WordSupply) :=
  if supply.overflow = .stops ∧ supply.next.toNat + 1 = UInt32.size then
    none
  else
    some (supply.next, { supply with next := supply.next + 1 })

/-- Takes several words. -/
def takeMany? : Nat → WordSupply → Option (List UInt32 × WordSupply)
  | 0, supply => some ([], supply)
  | count + 1, supply => do
      let (first, afterFirst) ← supply.take?
      let (others, afterAll) ← takeMany? count afterFirst
      some (first :: others, afterAll)

end WordSupply

namespace Declaration

mutual

/-- Numbers a declaration and all that it owns with words, owners first. -/
def assignInWords?
    (supply : WordSupply) :
    Declaration → Option (Declaration × Renumbering × WordSupply)
  | .node info children signatures parameters => do
      let (fresh, afterSelf) ← supply.take?
      let (newChildren, childNumbers, afterChildren) ←
        assignAllInWords? afterSelf children
      let (newSignatures, signatureNumbers, afterSignatures) ←
        assignAllInWords? afterChildren signatures
      let (newParameters, parameterNumbers, afterParameters) ←
        assignAllInWords? afterSignatures parameters
      some
        ( .node { info with id := fresh.toNat } newChildren newSignatures
            newParameters,
          (info.id, fresh.toNat) ::
            (childNumbers ++ (signatureNumbers ++ parameterNumbers)),
          afterParameters )

/-- Numbers several declarations with words, in order. -/
def assignAllInWords?
    (supply : WordSupply) :
    List Declaration → Option (List Declaration × Renumbering × WordSupply)
  | [] => some ([], [], supply)
  | first :: rest => do
      let (newFirst, firstNumbers, afterFirst) ← first.assignInWords? supply
      let (newRest, restNumbers, afterRest) ← assignAllInWords? afterFirst rest
      some (newFirst :: newRest, firstNumbers ++ restNumbers, afterRest)

end

/-- Numbers all that a declaration owns with words, and keeps its own number. -/
def assignOwnedInWords?
    (supply : WordSupply) :
    Declaration → Option (Declaration × Renumbering × WordSupply)
  | .node info children signatures parameters => do
      let (newChildren, childNumbers, afterChildren) ←
        assignAllInWords? supply children
      let (newSignatures, signatureNumbers, afterSignatures) ←
        assignAllInWords? afterChildren signatures
      let (newParameters, parameterNumbers, afterParameters) ←
        assignAllInWords? afterSignatures parameters
      some
        ( .node info newChildren newSignatures newParameters,
          childNumbers ++ (signatureNumbers ++ parameterNumbers),
          afterParameters )

/-- Gives a declaration and all that it owns new words as numbers. -/
def renumberInWords?
    (supply : WordSupply)
    (declaration : Declaration) :
    Option (Declaration × Renumbering × WordSupply) := do
  let (assigned, numbers, rest) ← declaration.assignInWords? supply
  some (assigned.renameGroups numbers, numbers.keepLast, rest)

/-- Gives all that a declaration owns new words as numbers. -/
def renumberOwnedInWords?
    (supply : WordSupply)
    (declaration : Declaration) :
    Option (Declaration × Renumbering × WordSupply) := do
  let (assigned, numbers, rest) ← declaration.assignOwnedInWords? supply
  some (assigned.renameGroups numbers, numbers.keepLast, rest)

end Declaration

end ApiTree.Decl
