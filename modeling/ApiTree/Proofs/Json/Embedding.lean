import ApiTree.Proofs.Json.Lexing
import Mathlib.Data.List.Forall2

namespace ApiTree.Json

/-!
# Texts inside other texts

A text that is a complete value by itself is read as the same value where a value is
wanted in another text.  The machine takes the same lexemes there, only at other
places, and does with each of them what it does when the text stands alone: the open
lists and objects around the text stay below those of the text and are not touched.
-/

/-! ## Steps that go on -/

namespace Frame

/-- The mark that closes a frame. -/
def closer : Frame → Mark
  | .array _ _ => .closeArray
  | .object _ _ _ => .closeObject

/-- What a frame waits for after a comma. -/
def next : Frame → Phase
  | .array _ _ => .nextItem
  | .object _ _ _ => .nextKey

/-- A frame with a finished tree put into it. -/
def receive (tree : Tree) : Frame → Frame
  | .array start items => .array start (tree :: items)
  | .object start members (some key) => .object start ((key, tree) :: members) none
  | .object start members none => .object start members none

end Frame

namespace Building

theorem deliver_cons
    (tree : Tree)
    (frame : Frame)
    (stack : List Frame) :
    deliver tree (frame :: stack) =
      .waiting .separator (frame.receive tree :: stack) := by
  match frame with
  | .array _ _ => rfl
  | .object _ _ (some _) => rfl
  | .object _ _ none => rfl

/-- A step of the machine that takes a lexeme and goes on. -/
inductive Advances (placed : Placed) : Building → Building → Prop where
  | leaf
      {phase : Phase}
      {stack : List Frame}
      {tree : Tree}
      (wants : phase.WantsValue)
      (isLeaf : placed.leaf? = some tree) :
      Advances placed (.waiting phase stack) (deliver tree stack)
  | openArray
      {phase : Phase}
      {stack : List Frame}
      (wants : phase.WantsValue)
      (isMark : placed.lexeme = .mark .openArray) :
      Advances placed (.waiting phase stack)
        (.waiting .firstItem (.array placed.start [] :: stack))
  | openObject
      {phase : Phase}
      {stack : List Frame}
      (wants : phase.WantsValue)
      (isMark : placed.lexeme = .mark .openObject) :
      Advances placed (.waiting phase stack)
        (.waiting .firstKey (.object placed.start [] none :: stack))
  | closeEmptyArray
      {frame : Frame}
      {stack : List Frame}
      (isMark : placed.lexeme = .mark .closeArray) :
      Advances placed (.waiting .firstItem (frame :: stack))
        (deliver (closeFrame frame none (.closed placed.stop)) stack)
  | closeEmptyObject
      {frame : Frame}
      {stack : List Frame}
      (isMark : placed.lexeme = .mark .closeObject) :
      Advances placed (.waiting .firstKey (frame :: stack))
        (deliver (closeFrame frame none (.closed placed.stop)) stack)
  | close
      {frame : Frame}
      {stack : List Frame}
      (isMark : placed.lexeme = .mark frame.closer) :
      Advances placed (.waiting .separator (frame :: stack))
        (deliver (closeFrame frame none (.closed placed.stop)) stack)
  | comma
      {frame : Frame}
      {stack : List Frame}
      (isMark : placed.lexeme = .mark .comma) :
      Advances placed (.waiting .separator (frame :: stack))
        (.waiting frame.next (frame :: stack))
  | name
      {phase : Phase}
      {stack : List Frame}
      {name : Except Fault String}
      (wants : phase = .firstKey ∨ phase = .nextKey)
      (isName : placed.lexeme = .string name) :
      Advances placed (.waiting phase stack) (.waiting (.colon name) stack)
  | colon
      {name : Except Fault String}
      {start : Nat}
      {members : List (Key × Tree)}
      {key : Option Key}
      {stack : List Frame}
      (isMark : placed.lexeme = .mark .colon) :
      Advances placed (.waiting (.colon name) (.object start members key :: stack))
        (.waiting .value
          (.object start members (some ⟨name, placed.start⟩) :: stack))

variable
    {building after : Building}
    {placed : Placed}

theorem takeValue_of_leaf
    {tree : Tree}
    (isLeaf : placed.leaf? = some tree)
    (stack : List Frame) :
    takeValue placed stack = deliver tree stack := by
  obtain ⟨lexeme, start, stop⟩ := placed
  cases lexeme with
  | null | bool | number | string =>
      cases isLeaf
      rfl
  | mark | broken | brokenString | stray => cases isLeaf

theorem Advances.step_eq (advances : Advances placed building after) :
    building.step placed = after := by
  cases advances with
  | leaf wants isLeaf =>
      rw [Reads.step_of_wantsValue wants, takeValue_of_leaf isLeaf]
      intro isMark
      simp [Placed.leaf?, isMark] at isLeaf
  | openArray wants isMark =>
      rw [Reads.step_of_wantsValue wants (by simp [isMark])]
      simp only [takeValue, isMark]
  | openObject wants isMark =>
      rw [Reads.step_of_wantsValue wants (by simp [isMark])]
      simp only [takeValue, isMark]
  | closeEmptyArray isMark => simp only [step, isMark, Building.close]
  | closeEmptyObject isMark => simp only [step, isMark, Building.close]
  | @close frame stack isMark =>
      cases frame <;> simp only [Frame.closer] at isMark <;>
        simp only [step, takeSeparator, isMark, Building.close]
  | @comma frame stack isMark =>
      cases frame <;> simp only [step, takeSeparator, isMark, Frame.next]
  | name wants isName =>
      rcases wants with rfl | rfl <;> simp only [step, takeKey, isName]
  | colon isMark => simp only [step, isMark]

/-- What a step does: the machine stops, was finished already, or goes on. -/
inductive StepEnds (placed : Placed) (building : Building) : Prop where
  | stops
      (tree : Tree)
      (stopped : building.step placed = .stopped tree)
  | finished
      (tree : Tree)
      (trailing : Option Nat)
      (complete : building = .complete tree trailing)
  | advances
      (after : Building)
      (advances : Advances placed building after)

theorem exists_stopInFrame
    (reading skipping finishing : Fault)
    (stack : List Frame) :
    ∃ tree, stopInFrame reading skipping finishing stack = .stopped tree := by
  cases stack <;> exact ⟨_, rfl⟩

theorem exists_stopAfterName
    (name : Except Fault String)
    (next : Nat)
    (fault : Fault)
    (stack : List Frame) :
    ∃ tree, stopAfterName name next fault stack = .stopped tree := by
  match stack with
  | [] => exact ⟨_, rfl⟩
  | .array _ _ :: _ => exact ⟨_, rfl⟩
  | .object _ _ _ :: _ => exact ⟨_, rfl⟩

theorem StepEnds.of_stops
    (stops : ∃ tree, building.step placed = .stopped tree) :
    StepEnds placed building := by
  obtain ⟨tree, isStopped⟩ := stops
  exact .stops tree isStopped

theorem stepEnds_value
    {phase : Phase}
    {stack : List Frame}
    (wants : phase.WantsValue)
    (notClosing : placed.lexeme ≠ .mark .closeArray) :
    StepEnds placed (.waiting phase stack) := by
  have takes : (Building.waiting phase stack).step placed = takeValue placed stack :=
    Reads.step_of_wantsValue wants notClosing
  cases isLexeme : placed.lexeme with
  | null | bool | number | string =>
      exact .advances _ (.leaf wants (by simp only [Placed.leaf?, isLexeme]; rfl))
  | broken | brokenString | stray =>
      exact .stops _ (takes.trans (by simp only [takeValue, isLexeme]; rfl))
  | mark mark =>
      cases mark with
      | openArray => exact .advances _ (.openArray wants isLexeme)
      | openObject => exact .advances _ (.openObject wants isLexeme)
      | closeArray | closeObject | colon | comma =>
          exact .stops _ (takes.trans (by simp only [takeValue, isLexeme]; rfl))

theorem stepEnds_key
    {phase : Phase}
    {stack : List Frame}
    (wants : phase = .firstKey ∨ phase = .nextKey)
    (notClosing : placed.lexeme ≠ .mark .closeObject) :
    StepEnds placed (.waiting phase stack) := by
  have takes : step (.waiting phase stack) placed = takeKey placed stack := by
    rcases wants with rfl | rfl <;> simp only [step]
  cases isLexeme : placed.lexeme with
  | string name => exact .advances _ (.name wants isLexeme)
  | null | bool | number | broken | brokenString | stray | mark =>
      refine .of_stops ?_
      simp only [takes, takeKey, isLexeme]
      exact exists_stopInFrame _ _ _ _

theorem stepEnds_close
    {phase : Phase}
    {stack : List Frame}
    (closes : step (.waiting phase stack) placed = Building.close placed.stop stack)
    (advances : ∀ frame outer, stack = frame :: outer →
      Advances placed (.waiting phase (frame :: outer))
        (deliver (closeFrame frame none (.closed placed.stop)) outer)) :
    StepEnds placed (.waiting phase stack) := by
  cases stack with
  | nil => exact .stops _ closes
  | cons frame outer => exact .advances _ (advances frame outer rfl)

theorem stepEnds_colon
    (placed : Placed)
    (name : Except Fault String)
    (stack : List Frame) :
    StepEnds placed (.waiting (.colon name) stack) := by
  by_cases isColon : placed.lexeme = .mark .colon
  · match stack with
    | .object _ _ _ :: _ => exact .advances _ (.colon isColon)
    | [] | .array _ _ :: _ =>
        refine .of_stops ?_
        simp only [step, isColon]
        exact exists_stopAfterName _ _ _ _
  · refine .of_stops ?_
    simp only [step]
    split
    · exact (isColon ‹_›).elim
    all_goals exact exists_stopAfterName _ _ _ _

theorem stepEnds_separator
    (placed : Placed)
    (stack : List Frame) :
    StepEnds placed (.waiting .separator stack) := by
  by_cases goesOn : ∃ frame outer, stack = frame :: outer ∧
      (placed.lexeme = .mark .comma ∨ placed.lexeme = .mark frame.closer)
  · obtain ⟨frame, outer, rfl, isComma | isCloser⟩ := goesOn
    · exact .advances _ (.comma isComma)
    · exact .advances _ (.close isCloser)
  · refine .of_stops ?_
    simp only [step]
    rw [takeSeparator.eq_def]
    split
    · exact (goesOn ⟨_, _, rfl, .inl ‹_›⟩).elim
    · exact (goesOn ⟨_, _, rfl, .inl ‹_›⟩).elim
    · exact (goesOn ⟨_, _, rfl, .inr ‹_›⟩).elim
    · exact (goesOn ⟨_, _, rfl, .inr ‹_›⟩).elim
    all_goals exact exists_stopInFrame _ _ _ _

/-- At the end of the text a machine that waits stops. -/
theorem exists_finish
    (stop : Nat)
    (phase : Phase)
    (stack : List Frame) :
    ∃ tree, (waiting phase stack).finish stop = .stopped tree := by
  cases phase with
  | value => exact ⟨_, rfl⟩
  | firstItem | nextItem | firstKey | nextKey => exact exists_stopInFrame _ _ _ _
  | colon name => exact exists_stopAfterName _ _ _ _
  | separator =>
      simp only [finish]
      split <;> exact exists_stopInFrame _ _ _ _

theorem stepEnds (placed : Placed) (building : Building) :
    StepEnds placed building := by
  cases building with
  | stopped tree => exact .stops tree rfl
  | complete tree trailing => exact .finished tree trailing rfl
  | waiting phase stack =>
      cases phase with
      | value =>
          by_cases isClosing : placed.lexeme = .mark .closeArray
          · refine .of_stops ?_
            simp only [step, takeValue, isClosing]
            exact ⟨_, rfl⟩
          · exact stepEnds_value .value isClosing
      | firstItem =>
          by_cases isClosing : placed.lexeme = .mark .closeArray
          · refine stepEnds_close (by simp only [step, isClosing]) ?_
            rintro frame outer rfl
            exact .closeEmptyArray isClosing
          · exact stepEnds_value .firstItem isClosing
      | nextItem =>
          by_cases isClosing : placed.lexeme = .mark .closeArray
          · refine .of_stops ?_
            simp only [step, isClosing]
            exact exists_stopInFrame _ _ _ _
          · exact stepEnds_value .nextItem isClosing
      | firstKey =>
          by_cases isClosing : placed.lexeme = .mark .closeObject
          · refine stepEnds_close (by simp only [step, isClosing]) ?_
            rintro frame outer rfl
            exact .closeEmptyObject isClosing
          · exact stepEnds_key (.inl rfl) isClosing
      | nextKey =>
          by_cases isClosing : placed.lexeme = .mark .closeObject
          · refine .of_stops ?_
            simp only [step, isClosing]
            exact exists_stopInFrame _ _ _ _
          · exact stepEnds_key (.inr rfl) isClosing
      | colon name => exact stepEnds_colon placed name stack
      | separator => exact stepEnds_separator placed stack

/-- A run in which the machine goes on at each lexeme. -/
inductive Goes : Building → List Placed → Building → Prop where
  | done (building : Building) : Goes building [] building
  | next
      {first second last : Building}
      {placed : Placed}
      {others : List Placed}
      (advances : Advances placed first second)
      (goes : Goes second others last) :
      Goes first (placed :: others) last

theorem run_stopped
    (tree : Tree)
    (placed : List Placed) :
    run (.stopped tree) placed = .stopped tree := by
  induction placed with
  | nil => rfl
  | cons first rest inductionHypothesis => exact inductionHypothesis

theorem run_trailing
    (tree : Tree)
    (trailing : Nat)
    (placed : List Placed) :
    run (.complete tree (some trailing)) placed = .complete tree (some trailing) := by
  induction placed with
  | nil => rfl
  | cons first rest inductionHypothesis => exact inductionHypothesis

/-- A run that ends with a complete tree and nothing after it went on at each lexeme. -/
theorem goes_of_complete
    {tree : Tree}
    {placed : List Placed}
    (completes : building.run placed = .complete tree none) :
    Goes building placed (.complete tree none) := by
  induction placed generalizing building with
  | nil => exact completes ▸ .done building
  | cons first rest inductionHypothesis =>
      have stepped : (building.step first).run rest = .complete tree none := completes
      cases stepEnds first building with
      | stops _ isStopped =>
          rw [isStopped, run_stopped] at stepped
          cases stepped
      | finished other trailing isComplete =>
          subst isComplete
          cases trailing with
          | none =>
              rw [step, run_trailing] at stepped
              cases stepped
          | some trailing =>
              rw [step, run_trailing] at stepped
              cases stepped
      | advances after advances =>
          rw [advances.step_eq] at stepped
          exact .next advances (inductionHypothesis stepped)

theorem Advances.not_final (advances : Advances placed building after) :
    placed.lexeme.isFinal = false := by
  cases advances with
  | leaf _ isLeaf =>
      obtain ⟨lexeme, start, stop⟩ := placed
      cases lexeme <;> first | rfl | cases isLeaf
  | openArray _ isMark | openObject _ isMark | closeEmptyArray isMark
  | closeEmptyObject isMark | close isMark | comma isMark | colon isMark =>
      rw [isMark]
      rfl
  | name _ isName =>
      rw [isName]
      rfl

/-- Nothing breaks off in a run that goes on. -/
theorem Goes.not_final
    {placed : List Placed}
    (goes : Goes building placed after) :
    ∀ one ∈ placed, one.lexeme.isFinal = false := by
  induction goes with
  | done => exact List.forall_mem_nil _
  | next advances _ inductionHypothesis =>
      exact List.forall_mem_cons.mpr ⟨advances.not_final, inductionHypothesis⟩

end Building

/-! ## Steps at other places -/

/-- A phase without what is known of its faults. -/
def Phase.bare : Phase → Phase
  | .colon name => .colon (bareOutcome name)
  | other => other

/-- A frame without the places of its parts. -/
def Frame.bare : Frame → Frame
  | .array _ items => .array 0 (Tree.bareItems items)
  | .object _ members key => .object 0 (Tree.bareMembers members) (key.map Key.bare)

/-! ### Frames -/

namespace Frame

theorem bare_receive
    (frame : Frame)
    (tree : Tree) :
    (frame.receive tree).bare = frame.bare.receive tree.bare := by
  match frame with
  | .array _ _ => rfl
  | .object _ _ (some _) => rfl
  | .object _ _ none => rfl

theorem bare_closeFrame
    (frame : Frame)
    (stop : Nat) :
    (Building.closeFrame frame none (.closed stop)).bare =
      Building.closeFrame frame.bare none (.closed 0) := by
  cases frame with
  | array start items =>
      simp only [Building.closeFrame, Frame.bare, Tree.bare, Ending.bare,
        Tree.bareItems_eq_map, List.map_reverse, Option.toList_none, List.append_nil]
  | object start members key =>
      cases key <;>
        simp only [Building.closeFrame, Frame.bare, Tree.bare, Ending.bare,
          Tree.bareMembers_eq_map, List.map_reverse, Option.map_none, Option.map_some]

theorem closer_bare (frame : Frame) : frame.bare.closer = frame.closer := by
  cases frame <;> rfl

theorem next_bare (frame : Frame) : frame.bare.next = frame.next := by
  cases frame <;> rfl

end Frame

namespace Building

/--
That a machine which takes a text inside another one is where the machine is that takes
the text alone: below are the frames that were open before the text, untouched.
-/
inductive Inside (outer : List Frame) : Building → Building → Prop where
  | start
      {phase : Phase}
      (wants : phase.WantsValue) :
      Inside outer (.waiting .value []) (.waiting phase outer)
  | waiting
      {phase other : Phase}
      {stack others : List Frame}
      (samePhase : phase.bare = other.bare)
      (sameStack : stack.map Frame.bare = others.map Frame.bare) :
      Inside outer (.waiting phase stack) (.waiting other (others ++ outer))
  | complete
      {tree other : Tree}
      (same : tree.bare = other.bare) :
      Inside outer (.complete tree none) (deliver other outer)

namespace Inside

variable
    {outer stack others : List Frame}

theorem deliver
    {tree other : Tree}
    (same : tree.bare = other.bare)
    (sameStack : stack.map Frame.bare = others.map Frame.bare) :
    Inside outer (deliver tree stack) (Building.deliver other (others ++ outer)) := by
  cases stack with
  | nil =>
      obtain rfl := List.map_eq_nil_iff.mp sameStack.symm
      exact .complete same
  | cons frame stack =>
      obtain ⟨otherFrame, otherStack, rfl, sameFrame, sameRest⟩ :=
        List.map_eq_cons_iff.mp sameStack.symm
      rw [List.cons_append, deliver_cons, deliver_cons, ← List.cons_append]
      refine .waiting rfl ?_
      rw [List.map_cons, List.map_cons, Frame.bare_receive, Frame.bare_receive,
        sameFrame, same, sameRest]

theorem bare_eq_of_wantsValue
    {phase other : Phase}
    (samePhase : phase.bare = other.bare)
    (wants : phase.WantsValue) :
    other.WantsValue := by
  cases wants <;> cases other <;> cases samePhase <;> constructor

/-- Where a value is wanted of the text alone, one is wanted inside the other text. -/
theorem of_wantsValue
    {phase : Phase}
    {inside : Building}
    (place : Inside outer (.waiting phase stack) inside)
    (wants : phase.WantsValue) :
    ∃ other others, inside = .waiting other (others ++ outer) ∧ other.WantsValue ∧
      stack.map Frame.bare = others.map Frame.bare := by
  cases place with
  | start wantsHere => exact ⟨_, [], rfl, wantsHere, rfl⟩
  | waiting samePhase sameStack =>
      exact ⟨_, _, rfl, bare_eq_of_wantsValue samePhase wants, sameStack⟩

/-- A frame of the text alone is open inside the other text. -/
theorem of_frame
    {phase : Phase}
    {frame : Frame}
    {inside : Building}
    (place : Inside outer (.waiting phase (frame :: stack)) inside) :
    ∃ other otherFrame others,
      inside = .waiting other (otherFrame :: (others ++ outer)) ∧
        phase.bare = other.bare ∧ frame.bare = otherFrame.bare ∧
        stack.map Frame.bare = others.map Frame.bare := by
  cases place with
  | waiting samePhase sameStack =>
      obtain ⟨otherFrame, others, rfl, sameFrame, sameRest⟩ :=
        List.map_eq_cons_iff.mp sameStack.symm
      exact ⟨_, otherFrame, others, rfl, samePhase, sameFrame.symm, sameRest.symm⟩

/-- A frame is closed alike inside the other text. -/
theorem deliver_closeFrame
    {frame otherFrame : Frame}
    (sameFrame : frame.bare = otherFrame.bare)
    (sameStack : stack.map Frame.bare = others.map Frame.bare)
    (stop otherStop : Nat) :
    Inside outer
      (Building.deliver (closeFrame frame none (.closed stop)) stack)
      (Building.deliver (closeFrame otherFrame none (.closed otherStop))
        (others ++ outer)) := by
  refine .deliver ?_ sameStack
  rw [Frame.bare_closeFrame, Frame.bare_closeFrame, sameFrame]

/-- A step of the text alone is a step inside the other text. -/
theorem advances
    {alone inside after : Building}
    {placed other : Placed}
    (place : Inside outer alone inside)
    (advances : Advances placed alone after)
    (same : placed.SameLexeme other) :
    ∃ afterInside, Advances other inside afterInside ∧
      Inside outer after afterInside := by
  cases advances with
  | leaf wants isLeaf =>
      obtain ⟨_, others, rfl, wantsToo, sameStack⟩ := place.of_wantsValue wants
      obtain ⟨otherTree, isLeafToo, sameTree⟩ := same.leaf isLeaf
      exact ⟨_, .leaf wantsToo isLeafToo, .deliver sameTree sameStack⟩
  | openArray wants isMark =>
      obtain ⟨_, others, rfl, wantsToo, sameStack⟩ := place.of_wantsValue wants
      refine ⟨_, .openArray wantsToo (same.mark isMark), ?_⟩
      rw [← List.cons_append]
      exact .waiting rfl (congrArg (_ :: ·) sameStack)
  | openObject wants isMark =>
      obtain ⟨_, others, rfl, wantsToo, sameStack⟩ := place.of_wantsValue wants
      refine ⟨_, .openObject wantsToo (same.mark isMark), ?_⟩
      rw [← List.cons_append]
      exact .waiting rfl (congrArg (_ :: ·) sameStack)
  | closeEmptyArray isMark =>
      obtain ⟨phase, _, others, rfl, samePhase, sameFrame, sameStack⟩ := place.of_frame
      cases phase <;> cases samePhase
      exact ⟨_, .closeEmptyArray (same.mark isMark),
        deliver_closeFrame sameFrame sameStack _ _⟩
  | closeEmptyObject isMark =>
      obtain ⟨phase, _, others, rfl, samePhase, sameFrame, sameStack⟩ := place.of_frame
      cases phase <;> cases samePhase
      exact ⟨_, .closeEmptyObject (same.mark isMark),
        deliver_closeFrame sameFrame sameStack _ _⟩
  | close isMark =>
      obtain ⟨phase, _, others, rfl, samePhase, sameFrame, sameStack⟩ := place.of_frame
      cases phase <;> cases samePhase
      rw [← Frame.closer_bare, sameFrame, Frame.closer_bare] at isMark
      exact ⟨_, .close (same.mark isMark), deliver_closeFrame sameFrame sameStack _ _⟩
  | comma isMark =>
      obtain ⟨phase, frame, others, rfl, samePhase, sameFrame, sameStack⟩ := place.of_frame
      cases phase <;> cases samePhase
      refine ⟨_, .comma (same.mark isMark), ?_⟩
      rw [← List.cons_append, ← Frame.next_bare, sameFrame, Frame.next_bare]
      exact .waiting rfl (congrArg₂ List.cons sameFrame sameStack)
  | name wants isName =>
      obtain ⟨otherName, isNameToo, sameName⟩ := same.string isName
      cases place with
      | start => rcases wants with wants | wants <;> cases wants
      | @waiting _ phase _ others samePhase sameStack =>
          refine ⟨_, .name ?_ isNameToo, .waiting (congrArg Phase.colon sameName) sameStack⟩
          rcases wants with rfl | rfl <;> cases phase <;> cases samePhase
          · exact .inl rfl
          · exact .inr rfl
  | @colon name _ members _ _ isMark =>
      obtain ⟨phase, frame, others, rfl, samePhase, sameFrame, sameStack⟩ := place.of_frame
      cases frame with
      | array => cases sameFrame
      | object start otherMembers key =>
          cases phase with
          | colon otherName =>
              obtain ⟨-, sameMembers, -⟩ := Frame.object.inj sameFrame
              have sameName := Phase.colon.inj samePhase
              refine ⟨_, .colon (same.mark isMark), ?_⟩
              rw [← List.cons_append]
              refine .waiting rfl (congrArg₂ List.cons ?_ sameStack)
              simp only [Frame.bare, sameMembers, Option.map_some, Key.bare, sameName]
          | value | firstItem | nextItem | firstKey | nextKey | separator =>
              cases samePhase

/-- A run of the text alone is a run inside the other text. -/
theorem goes
    {alone inside after : Building}
    {placed others : List Placed}
    (place : Inside outer alone inside)
    (goes : Goes alone placed after)
    (same : List.Forall₂ Placed.SameLexeme placed others) :
    Inside outer after (inside.run others) := by
  induction goes generalizing inside others with
  | done =>
      cases same
      exact place
  | next advances _ inductionHypothesis =>
      cases same with
      | cons sameFirst sameRest =>
          obtain ⟨afterInside, advancesToo, placeAfter⟩ := place.advances advances sameFirst
          rw [run, List.foldl_cons, advancesToo.step_eq]
          exact inductionHypothesis placeAfter sameRest

end Inside

end Building

/-! ## Complete texts -/

/-- That a text by itself is one complete value, with its tree. -/
def Spells
    (chars : List Char)
    (tree : Tree) :
    Prop :=
  Building.initial.run (lexemes 0 chars) = .complete tree none

namespace Spells

variable
    {chars rest : List Char}
    {tree : Tree}

/-- Where a value is wanted in another text, a complete text delivers its tree. -/
theorem exists_delivered
    {phase : Phase}
    (spells : Spells chars tree)
    (wants : phase.WantsValue)
    (delimited : Delimited rest)
    (outer : List Frame)
    (offset : Nat) :
    ∃ other stop,
      (Building.waiting phase outer).runText offset (chars ++ rest) =
          (Building.deliver other outer).runText stop rest ∧
        tree.bare = other.bare := by
  have goes := Building.goes_of_complete spells
  -- The text is cut alike here, and the machine does here what it does on the text alone.
  obtain ⟨placed, stop, lexemesEq, same⟩ :=
    exists_lexemes_append delimited goes.not_final offset
  have start : Building.Inside outer .initial (.waiting phase outer) := .start wants
  have place := start.goes goes same
  rw [Building.runText, lexemesEq, Building.run_append]
  generalize (Building.waiting phase outer).run placed = inside at place
  cases place with
  | complete sameTree => exact ⟨_, stop, rfl, sameTree⟩

/-- A carriage return at the end does not matter. -/
theorem exists_of_return (spells : Spells (chars ++ ['\r']) tree) :
    ∃ other, Spells chars other ∧ tree.bare = other.bare := by
  have goes := Building.goes_of_complete spells
  have start : Building.Inside [] .initial .initial := .start .value
  have place := start.goes goes (sameLexemes_of_append goes.not_final)
  generalize isHere : Building.initial.run (lexemes 0 chars) = here at place
  cases place with
  | complete sameTree => exact ⟨_, isHere, sameTree⟩

theorem document
    {text : String}
    (spells : Spells text.toList tree) :
    Document.of text = ⟨tree, none⟩ :=
  Reads.document_of_complete spells

/-- Who decodes no cut tree decodes complete texts only. -/
theorem exists_of_decode
    {α : Type}
    {decoder : Decoder α}
    {text : String}
    {found : α}
    (needsEnd : ∀ tree : Tree, tree.IsCut → decoder levelLimit tree ≠ .ok found)
    (decoded : decode decoder text = .ok found) :
    ∃ tree, Spells text.toList tree ∧ decoder levelLimit tree = .ok found := by
  have readTree {tree : Tree} (isDocument : Document.of text = ⟨tree, none⟩) :
      decoder levelLimit tree = .ok found := by
    rw [decode, isDocument] at decoded
    cases read : decoder levelLimit tree with
    | error fault =>
        rw [read] at decoded
        cases decoded
    | ok value =>
        rw [read] at decoded
        exact decoded
  cases ran : Building.initial.run (lexemes 0 text.toList) with
  | complete tree trailing =>
      cases trailing with
      | none => exact ⟨tree, ran, readTree (Reads.document_of_complete ran)⟩
      | some trailing =>
          have isDocument : Document.of text =
              ⟨tree, some (Building.faultAt .trailingCharacters trailing)⟩ := by
            simp only [Document.of, Document.ofChars, ran, Building.finish,
              Option.map_some]
          rw [decode, isDocument] at decoded
          cases read : decoder levelLimit tree <;> rw [read] at decoded <;> cases decoded
  | stopped tree =>
      have cut := (Building.stopsCut_waiting .value []).run (lexemes 0 text.toList) tree ran
      exact (needsEnd tree cut (readTree (Reads.document_of_stopped ran))).elim
  | waiting phase stack =>
      obtain ⟨tree, finished⟩ :=
        Building.exists_finish (byteCount text.toList) phase stack
      have isDocument : Document.of text = ⟨tree, none⟩ := by
        simp only [Document.of, Document.ofChars, ran, finished]
      have cut := Building.stopsCut_finish _ phase stack tree finished
      exact (needsEnd tree cut (readTree isDocument)).elim

/-- Complete texts with commas between them are the items of a list. -/
theorem exists_items
    {phase : Phase}
    {text : List Char}
    {texts : List (List Char)}
    {trees : List Tree}
    (spells : List.Forall₂ Spells (text :: texts) trees)
    (wants : phase.WantsValue)
    (start : Nat)
    (taken : List Tree)
    (outer : List Frame)
    (offset : Nat)
    (rest : List Char) :
    ∃ items closed stop,
      (Building.waiting phase (.array start taken :: outer)).runText offset
          (List.intercalate [','] (text :: texts) ++ ']' :: rest) =
          (Building.deliver (.array start (taken.reverse ++ items) (.closed closed))
            outer).runText stop rest ∧
        trees.map Tree.bare = items.map Tree.bare := by
  induction texts generalizing text trees phase taken offset with
  | nil =>
      obtain ⟨tree, others, here, noOthers, rfl⟩ := List.forall₂_cons_left_iff.mp spells
      cases noOthers
      obtain ⟨item, stop, delivers, same⟩ := here.exists_delivered wants
        (Reads.delimited_mark (.inr (.inl rfl)) rest) (.array start taken :: outer) offset
      refine ⟨[item], stop + 1, stop + 1, ?_, congrArg ([·]) same⟩
      rw [List.intercalate_singleton, delivers, Building.deliver_cons,
        Building.runText_mark rfl rfl]
      simp [Building.step, Building.takeSeparator, Building.close, Building.closeFrame,
        Frame.receive]
  | cons second texts inductionHypothesis =>
      obtain ⟨tree, others, here, there, rfl⟩ := List.forall₂_cons_left_iff.mp spells
      obtain ⟨item, stop, delivers, same⟩ := here.exists_delivered wants
        (Reads.delimited_mark (.inl rfl)
          (List.intercalate [','] (second :: texts) ++ ']' :: rest))
        (.array start taken :: outer) offset
      obtain ⟨items, closed, last, delivered, sameItems⟩ :=
        inductionHypothesis there .nextItem (item :: taken) (stop + 1)
      refine ⟨item :: items, closed, last, ?_, congrArg₂ List.cons same sameItems⟩
      rw [List.reverse_cons, List.append_assoc, List.singleton_append] at delivered
      rw [List.intercalate_cons_cons, List.append_assoc, List.append_assoc,
        List.singleton_append, delivers, Building.deliver_cons,
        Building.runText_mark rfl rfl, ← delivered]
      simp only [Building.step, Building.takeSeparator, Frame.receive]

/-- A list of complete texts is a complete text. -/
theorem list
    {texts : List (List Char)}
    {trees : List Tree}
    (spells : List.Forall₂ Spells texts trees) :
    ∃ items closed,
      Spells ('[' :: (List.intercalate [','] texts ++ [']']))
          (.array 0 items (.closed closed)) ∧
        trees.map Tree.bare = items.map Tree.bare := by
  have opens (rest : List Char) :
      Building.initial.runText 0 ('[' :: rest) =
        (Building.waiting .firstItem [.array 0 []]).runText 1 rest := by
    rw [Building.runText_mark rfl rfl]
    rfl
  cases texts with
  | nil =>
      cases spells
      refine ⟨[], 2, (opens _).trans ?_, rfl⟩
      rw [List.intercalate_nil, List.nil_append, Building.runText_mark rfl rfl,
        Building.runText_nil]
      rfl
  | cons text texts =>
      obtain ⟨items, closed, stop, delivered, same⟩ :=
        exists_items spells .firstItem 0 [] [] 1 []
      refine ⟨items, closed, (opens _).trans (delivered.trans ?_), same⟩
      rw [Building.runText_nil]
      rfl

end Spells

end ApiTree.Json
