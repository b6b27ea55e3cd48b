import ApiTree.Decl.TypeExpr

namespace ApiTree.Decl

/-!
# Numbering

Declarations are numbered upwards from one in the order in which they are made.
Zero is the number of the project itself.  Numbers are counted here without an end;
`WordSupply` is the supply whose numbers are words of 32 bits, and it gives the same
numbers as long as they come before the largest word.
-/

/-- The number of the project. -/
def rootId : DeclId := 0

/-- The numbers that are still free: this one and all above it. -/
structure IdSupply where
  next : DeclId := rootId + 1
  deriving Repr, DecidableEq

namespace IdSupply

/-- The supply of a new run. -/
def fresh : IdSupply := {}

/-- Takes the next number. -/
def take (supply : IdSupply) : DeclId × IdSupply :=
  (supply.next, ⟨supply.next + 1⟩)

/-- Takes several numbers. -/
def takeMany : Nat → IdSupply → List DeclId × IdSupply
  | 0, supply => ([], supply)
  | count + 1, supply =>
      let (first, afterFirst) := supply.take
      let (others, afterAll) := takeMany count afterFirst
      (first :: others, afterAll)

/-- How many numbers were taken. -/
def issued (supply : IdSupply) : Nat :=
  supply.next - (rootId + 1)

end IdSupply

end ApiTree.Decl
