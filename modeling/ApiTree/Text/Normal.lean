import ApiTree.Text.NormalTable

namespace ApiTree.Text

/-!
# Normalisation

Two spellings of an identifier are the same identifier if they have the same
normal form.  It is made in three steps: every character is decomposed, marks
that follow one character are put in the order of their classes, and what can
be composed is composed again.
-/

/-- The value of a hexadecimal digit in upper case, zero for other characters. -/
def upperHexValue (char : Char) : Nat :=
  if '0' ≤ char ∧ char ≤ '9' then char.toNat - '0'.toNat
  else if 'A' ≤ char ∧ char ≤ 'F' then char.toNat - 'A'.toNat + 10
  else 0

/-- Where the reading of a table stands: finished rows, the row, and its last number. -/
structure TableReading where
  rows : List (List Nat) := []
  row : List Nat := []
  number : Nat := 0

/-- Reads one character of a table. -/
def TableReading.step
    (reading : TableReading)
    (char : Char) :
    TableReading :=
  if char = '.' then
    { reading with row := reading.number :: reading.row, number := 0 }
  else if char = ' ' ∨ char = '\n' then
    { rows := (reading.number :: reading.row).reverse :: reading.rows }
  else
    { reading with number := reading.number * 16 + upperHexValue char }

/-- The rows of a table, in order. -/
def readTable (text : String) : List (List Nat) :=
  (text.foldl TableReading.step {}).step ' ' |>.rows.reverse

/-- The rows of `singleDecompositionText`. -/
def singleDecompositions : List (List Nat) :=
  readTable singleDecompositionText

/-- The rows of `longDecompositionText`. -/
def longDecompositions : List (List Nat) :=
  readTable longDecompositionText

/-- The rows of `combiningClassText`. -/
def combiningClasses : List (List Nat) :=
  readTable combiningClassText

/-- The rows of `compositionText`. -/
def compositions : List (List Nat) :=
  readTable compositionText

/-- The first Hangul syllable; the others follow in the order of their parts. -/
def hangulFirst : Nat := 0xAC00

/-- The number of Hangul syllables. -/
def hangulCount : Nat := 11172

/-- The character before the first Hangul final. -/
def hangulFinalBase : Nat := 0x11A7

/-- The number of Hangul finals, none included. -/
def hangulFinals : Nat := 28

/-- The first Hangul vowel. -/
def hangulVowelBase : Nat := 0x1161

/-- The number of Hangul vowels. -/
def hangulVowels : Nat := 21

/-- The first Hangul initial. -/
def hangulInitialBase : Nat := 0x1100

/-- The number of Hangul initials. -/
def hangulInitials : Nat := 19

/-- The parts of a Hangul syllable, given its position among the syllables. -/
def hangulParts (position : Nat) : List Nat :=
  let initial := hangulInitialBase + position / (hangulVowels * hangulFinals)
  let vowel :=
    hangulVowelBase + position % (hangulVowels * hangulFinals) / hangulFinals
  let final := position % hangulFinals
  if final = 0 then
    [initial, vowel]
  else
    [initial, vowel, hangulFinalBase + final]

/-- What a row of single decompositions says of a character. -/
def singleDecomposition?
    (point : Nat) :
    List Nat → Option Nat
  | [first, count, target] =>
      if first ≤ point ∧ point < first + count then
        some (target + (point - first))
      else
        none
  | _ => none

/-- The complete decomposition of a character. -/
def decompose (point : Nat) : List Nat :=
  if hangulFirst ≤ point ∧ point < hangulFirst + hangulCount then
    hangulParts (point - hangulFirst)
  else
    match singleDecompositions.findSome? (singleDecomposition? point) with
    | some target => [target]
    | none =>
        match longDecompositions.find? (·.head? == some point) with
        | some row => row.drop 1
        | none => [point]

/-- Whether a character lies in the run of a row of combining classes. -/
def inClassRun
    (point : Nat) :
    List Nat → Option Nat
  | [first, last, combiningClass] =>
      if first ≤ point ∧ point ≤ last then some combiningClass else none
  | _ => none

/-- The combining class of a character; zero if it attaches to none. -/
def combiningClass (point : Nat) : Nat :=
  (combiningClasses.findSome? (inClassRun point)).getD 0

/-- Puts a mark before the marks of a higher class that a list starts with. -/
def insertMark
    (mark : Nat) :
    List Nat → List Nat
  | [] => [mark]
  | first :: rest =>
      let firstClass := combiningClass first
      if firstClass ≠ 0 ∧ firstClass < combiningClass mark then
        first :: insertMark mark rest
      else
        mark :: first :: rest

/-- Puts the marks that follow one character in the order of their classes. -/
def orderMarks : List Nat → List Nat
  | [] => []
  | first :: rest =>
      if combiningClass first = 0 then
        first :: orderMarks rest
      else
        insertMark first (orderMarks rest)

/-- What two Hangul parts compose to. -/
def composeHangul? (first second : Nat) : Option Nat :=
  if hangulInitialBase ≤ first ∧ first < hangulInitialBase + hangulInitials ∧
      hangulVowelBase ≤ second ∧ second < hangulVowelBase + hangulVowels then
    some (hangulFirst +
      ((first - hangulInitialBase) * hangulVowels +
        (second - hangulVowelBase)) * hangulFinals)
  else if hangulFirst ≤ first ∧ first < hangulFirst + hangulCount ∧
      (first - hangulFirst) % hangulFinals = 0 ∧
      hangulFinalBase < second ∧ second < hangulFinalBase + hangulFinals then
    some (first + (second - hangulFinalBase))
  else
    none

/-- What two characters compose to. -/
def composePair? (first second : Nat) : Option Nat :=
  match composeHangul? first second with
  | some composed => some composed
  | none =>
      match compositions.find? fun row => row.take 2 == [first, second] with
      | some row => row[2]?
      | none => none

/--
Where composition stands: what is finished, the last character that others may
attach to, and the marks behind it that did not compose, both newest first.
-/
structure Composition where
  finished : List Nat := []
  base : Option Nat := none
  marks : List Nat := []

namespace Composition

/-- All characters so far, newest first. -/
def all (composition : Composition) : List Nat :=
  composition.marks ++ (composition.base.toList ++ composition.finished)

/-- Whether something stands between the base and a character of a class. -/
def blocks
    (composition : Composition)
    (class_ : Nat) :
    Bool :=
  match composition.marks with
  | [] => false
  | last :: _ => class_ ≤ combiningClass last

/-- Adds a character: to the base if the two compose and nothing stands between. -/
def step
    (composition : Composition)
    (point : Nat) :
    Composition :=
  let pointClass := combiningClass point
  let composed :=
    if composition.blocks pointClass then
      none
    else
      composition.base.bind fun base => composePair? base point
  match composed with
  | some result => { composition with base := some result }
  | none =>
      if pointClass = 0 then
        { finished := composition.all, base := some point }
      else
        { composition with marks := point :: composition.marks }

end Composition

/-- Composes decomposed characters whose marks are in order. -/
def compose (points : List Nat) : List Nat :=
  (points.foldl Composition.step {}).all.reverse

/-- The normal form of a list of characters. -/
def normalForm (chars : List Char) : List Char :=
  let decomposed := chars.flatMap fun char => decompose char.toNat
  (compose (orderMarks decomposed)).map Char.ofNat

end ApiTree.Text
