import ApiTree.Json.Lexeme

namespace ApiTree.Json

/-!
# Trees of a text

A text becomes a tree with byte offsets, also when it is not JSON: the tree
then breaks off where the text does.  Whoever decodes a tree meets the fault
exactly where a reader of the text would, after everything before it has been
decoded.  Where a reader that keeps values and one that skips them report
different faults, the tree holds both.

The tree is built by a machine that takes one lexeme at a time, so building is
a fold and a run over two lists of lexemes is one run after the other.
-/

/-- The name of a member. -/
structure Key where
  name : Except Fault String
  /-- The offset of what follows the name, or past it if that is a closing brace. -/
  next : Nat

/-- How a list of items or members ends. -/
inductive Ending where
  /-- With its closing mark, at the offset after that mark. -/
  | closed (stop : Nat)
  /--
  Not at all: the faults of a reader that wants another item, of one that
  skips, and of one that wants the closing mark.
  -/
  | failed (reading skipping finishing : Fault)

/-- The tree of a value, with the offset of its first byte. -/
inductive Tree where
  | null (start stop : Nat)
  | bool (value : Bool) (start stop : Nat)
  | number (value : Except Fault Number) (start stop : Nat)
  | string (value : Except Fault String) (start stop : Nat)
  | array (start : Nat) (items : List Tree) (ending : Ending)
  | object (start : Nat) (members : List (Key × Tree)) (ending : Ending)
  /-- No value: the faults of a reader that keeps values and of one that skips. -/
  | broken (start : Nat) (reading skipping : Fault)

/-- The offset of the first byte of a tree. -/
def Tree.start : Tree → Nat
  | .null start _ => start
  | .bool _ start _ => start
  | .number _ start _ => start
  | .string _ start _ => start
  | .array start _ _ => start
  | .object start _ _ => start
  | .broken start _ _ => start

/-- A list or an object that is still open, its newest item first. -/
inductive Frame where
  | array (start : Nat) (items : List Tree)
  | object (start : Nat) (members : List (Key × Tree)) (key : Option Key)

/-- What the machine is waiting for. -/
inductive Phase where
  | value
  | firstItem
  | nextItem
  | firstKey
  | nextKey
  | colon (name : Except Fault String)
  | separator

/-- The state of the machine. -/
inductive Building where
  | waiting (phase : Phase) (stack : List Frame)
  /-- A complete tree, and the offset of the first lexeme after it. -/
  | complete (tree : Tree) (trailing : Option Nat)
  /-- A tree that broke off. -/
  | stopped (tree : Tree)

namespace Building

/-- A fault at the first byte of what was found. -/
def faultAt
    (cause : Cause)
    (start : Nat) :
    Fault :=
  ⟨cause, start + 1⟩

/-- Puts a last tree into a frame and closes the frame. -/
def closeFrame
    (frame : Frame)
    (last : Option Tree)
    (ending : Ending) :
    Tree :=
  match frame with
  | .array start items => .array start (items.reverse ++ last.toList) ending
  | .object start members key =>
      match key, last with
      | some key, some tree =>
          .object start (members.reverse ++ [(key, tree)]) ending
      | _, _ => .object start members.reverse ending

/-- The tree of all open frames around a tree that broke off. -/
def unwind
    (reading skipping : Fault)
    (tree : Tree) :
    List Frame → Tree
  | [] => tree
  | frame :: stack =>
      unwind reading skipping
        (closeFrame frame (some tree) (.failed reading skipping reading))
        stack

/-- Stops at a place where a value should stand. -/
def stopAtValue
    (start : Nat)
    (reading skipping : Fault)
    (stack : List Frame) :
    Building :=
  .stopped (unwind reading skipping (.broken start reading skipping) stack)

/-- Stops at a place where the innermost frame should go on or close. -/
def stopInFrame
    (reading skipping finishing : Fault) :
    List Frame → Building
  | [] => .stopped (.broken reading.offset reading skipping)
  | frame :: stack =>
      .stopped
        (unwind reading skipping
          (closeFrame frame none (.failed reading skipping finishing))
          stack)

/-- Stops after a name that no colon follows. -/
def stopAfterName
    (name : Except Fault String)
    (next : Nat)
    (fault : Fault) :
    List Frame → Building
  | .object start members _ :: stack =>
      stopAtValue next fault fault
        (.object start members (some ⟨name, next⟩) :: stack)
  | stack => stopAtValue next fault fault stack

/-- Hands a finished tree to the innermost frame. -/
def deliver (tree : Tree) : List Frame → Building
  | [] => .complete tree none
  | .array start items :: stack =>
      .waiting .separator (.array start (tree :: items) :: stack)
  | .object start members (some key) :: stack =>
      .waiting .separator (.object start ((key, tree) :: members) none :: stack)
  | .object start members none :: stack =>
      .waiting .separator (.object start members none :: stack)

/-- Closes the innermost frame. -/
def close
    (stop : Nat) :
    List Frame → Building
  | [] => .stopped (.broken stop ⟨.expectedValue, stop⟩ ⟨.expectedValue, stop⟩)
  | frame :: stack => deliver (closeFrame frame none (.closed stop)) stack

/-- Takes a lexeme where a value should stand. -/
def takeValue
    (placed : Placed)
    (stack : List Frame) :
    Building :=
  let start := placed.start
  let stop := placed.stop
  match placed.lexeme with
  | .null => deliver (.null start stop) stack
  | .bool value => deliver (.bool value start stop) stack
  | .number value => deliver (.number value start stop) stack
  | .string value => deliver (.string value start stop) stack
  | .mark .openArray => .waiting .firstItem (.array start [] :: stack)
  | .mark .openObject => .waiting .firstKey (.object start [] none :: stack)
  | .broken reading skipping => stopAtValue start reading skipping stack
  | .brokenString reading skipping => stopAtValue start reading skipping stack
  | _ =>
      let fault := faultAt .expectedValue start
      stopAtValue start fault fault stack

/-- Takes a lexeme where a name should stand. -/
def takeKey
    (placed : Placed)
    (stack : List Frame) :
    Building :=
  match placed.lexeme with
  | .string name => .waiting (.colon name) stack
  | .brokenString reading skipping => stopInFrame reading skipping reading stack
  | _ =>
      let fault := faultAt .keyNotString placed.start
      stopInFrame fault fault fault stack

/-- Takes a lexeme after an item or a member. -/
def takeSeparator
    (placed : Placed)
    (stack : List Frame) :
    Building :=
  match placed.lexeme, stack with
  | .mark .comma, .array _ _ :: _ => .waiting .nextItem stack
  | .mark .comma, .object _ _ _ :: _ => .waiting .nextKey stack
  | .mark .closeArray, .array _ _ :: _ => close placed.stop stack
  | .mark .closeObject, .object _ _ _ :: _ => close placed.stop stack
  | _, .object _ _ _ :: _ =>
      let fault := faultAt .expectedObjectSeparator placed.start
      stopInFrame fault fault fault stack
  | _, _ =>
      let fault := faultAt .expectedListSeparator placed.start
      stopInFrame fault fault (faultAt .trailingCharacters placed.start) stack

/-- Takes one lexeme. -/
def step
    (building : Building)
    (placed : Placed) :
    Building :=
  match building with
  | .stopped tree => .stopped tree
  | .complete tree none => .complete tree (some placed.start)
  | .complete tree (some trailing) => .complete tree (some trailing)
  | .waiting phase stack =>
      match phase with
      | .value => takeValue placed stack
      | .firstItem =>
          match placed.lexeme with
          | .mark .closeArray => close placed.stop stack
          | _ => takeValue placed stack
      | .nextItem =>
          match placed.lexeme with
          | .mark .closeArray =>
              let trailing := faultAt .trailingComma placed.start
              stopInFrame trailing (faultAt .expectedValue placed.start) trailing
                stack
          | _ => takeValue placed stack
      | .firstKey =>
          match placed.lexeme with
          | .mark .closeObject => close placed.stop stack
          | _ => takeKey placed stack
      | .nextKey =>
          match placed.lexeme with
          | .mark .closeObject =>
              let trailing := faultAt .trailingComma placed.start
              stopInFrame trailing (faultAt .keyNotString placed.start) trailing
                stack
          | _ => takeKey placed stack
      | .colon name =>
          let fault := faultAt .expectedColon placed.start
          match placed.lexeme, stack with
          | .mark .colon, .object start members _ :: outer =>
              .waiting .value
                (.object start members (some ⟨name, placed.start⟩) :: outer)
          | .mark .closeObject, _ => stopAfterName name placed.stop fault stack
          | _, _ => stopAfterName name placed.start fault stack
      | .separator => takeSeparator placed stack

/-- The state at the end of the text, where no lexeme is left. -/
def finish
    (stop : Nat)
    (building : Building) :
    Building :=
  match building with
  | .stopped tree => .stopped tree
  | .complete tree trailing => .complete tree trailing
  | .waiting phase stack =>
      let ends := fun cause => (⟨cause, stop⟩ : Fault)
      match phase with
      | .value => stopAtValue stop (ends .endInValue) (ends .endInValue) stack
      | .firstItem =>
          stopInFrame (ends .endInList) (ends .endInList) (ends .endInList) stack
      | .nextItem =>
          stopInFrame (ends .endInValue) (ends .endInValue)
            (ends .trailingCharacters) stack
      | .firstKey =>
          stopInFrame (ends .endInObject) (ends .endInObject) (ends .endInObject)
            stack
      | .nextKey =>
          stopInFrame (ends .endInValue) (ends .endInObject) (ends .endInObject)
            stack
      | .colon name => stopAfterName name stop (ends .endInObject) stack
      | .separator =>
          match stack with
          | .object _ _ _ :: _ =>
              stopInFrame (ends .endInObject) (ends .endInObject)
                (ends .endInObject) stack
          | _ =>
              stopInFrame (ends .endInList) (ends .endInList) (ends .endInList)
                stack

/-- The state after a list of lexemes. -/
def run
    (building : Building)
    (placed : List Placed) :
    Building :=
  placed.foldl step building

/-- A run over two lists is one run after the other. -/
theorem run_append
    (building : Building)
    (first second : List Placed) :
    building.run (first ++ second) = (building.run first).run second :=
  List.foldl_append

/-- The state before the first lexeme. -/
def initial : Building :=
  .waiting .value []

end Building

/-- The tree of a text, and the fault of what follows a complete value. -/
structure Document where
  tree : Tree
  trailing : Option Fault

/-- The document of a text given as characters. -/
def Document.ofChars (chars : List Char) : Document :=
  let stop := byteCount chars
  match (Building.initial.run (lexemes 0 chars)).finish stop with
  | .complete tree trailing =>
      ⟨tree, trailing.map (Building.faultAt .trailingCharacters)⟩
  | .stopped tree => ⟨tree, none⟩
  | .waiting _ _ =>
      ⟨.broken stop ⟨.endInValue, stop⟩ ⟨.endInValue, stop⟩, none⟩

/-- The document of a text. -/
def Document.of (text : String) : Document :=
  .ofChars text.toList

end ApiTree.Json
