import ApiTree.Proofs.Json.Broken
import ApiTree.Proofs.Json.Numerals
import ApiTree.Proofs.Json.Quoting

namespace ApiTree.Json

/-!
# What a text is read as

A text that is written piece by piece is read piece by piece: where a value is wanted,
the text of a value delivers one tree and leaves what follows untouched, or stops the
machine for good.  What is read from the tree depends on how many levels may still be
opened, and on nothing around the text.
-/

/-- The machine after the lexemes of a text that starts at an offset. -/
def Building.runText
    (building : Building)
    (offset : Nat)
    (chars : List Char) :
    Building :=
  building.run (lexemes offset chars)

namespace Building

variable
    {building : Building}
    {offset : Nat}
    {rest : List Char}

@[simp] theorem runText_nil : building.runText offset [] = building := by
  rw [runText, lexemes]
  rfl

/-- White space changes nothing but offsets. -/
theorem runText_space :
    building.runText offset (' ' :: rest) =
      building.runText (offset + 1) rest := by
  rw [runText, lexemes, if_pos (by decide)]
  rfl

/-- A lexeme is taken, and the text goes on after it. -/
theorem runText_step
    {char : Char}
    {placed : Placed}
    {others : List Char}
    (notSpace : isSpace char = false)
    (isFirst : firstLexeme offset char rest = ⟨placed, others⟩)
    (goesOn : placed.lexeme.isFinal = false) :
    building.runText offset (char :: rest) =
      (building.step placed).runText placed.stop others := by
  rw [runText, lexemes]
  simp [notSpace, isFirst, goesOn, runText, run]

/-- A lexeme that breaks off is the last one. -/
theorem runText_final
    {char : Char}
    {placed : Placed}
    {others : List Char}
    (notSpace : isSpace char = false)
    (isFirst : firstLexeme offset char rest = ⟨placed, others⟩)
    (isFinal : placed.lexeme.isFinal = true) :
    building.runText offset (char :: rest) = building.step placed := by
  rw [runText, lexemes]
  simp [notSpace, isFirst, isFinal, run]

theorem runText_mark
    {char : Char}
    {mark : Mark}
    (notSpace : isSpace char = false)
    (isMark : mark? char = some mark) :
    building.runText offset (char :: rest) =
      (building.step ⟨.mark mark, offset, offset + 1⟩).runText (offset + 1) rest := by
  refine runText_step notSpace ?_ rfl
  rw [firstLexeme, isMark]

/-- A literal whose escapes are complete is one lexeme. -/
theorem exists_runText_quote
    {body : List Char}
    (escaped : Escaped body)
    (building : Building)
    (offset : Nat)
    (rest : List Char) :
    ∃ value stop,
      building.runText offset ('"' :: (body ++ '"' :: rest)) =
          (building.step ⟨.string value, offset, stop⟩).runText stop rest ∧
        value.toOption = keptText? body := by
  obtain ⟨skipping, restEq, reading⟩ := escaped.scanned (offset + 1) rest
  refine ⟨_, (scanQuote (offset + 1) [] none (body ++ '"' :: rest)).stop, ?_, reading⟩
  refine runText_step rfl ?_ rfl
  rw [firstLexeme]
  simp [mark?, word?, skipping, restEq]

/-- Neither a sign nor a digit starts anything but a number. -/
theorem starts_numeral
    {char : Char}
    (starts : char = '-' ∨ (digit? char).isSome) :
    isSpace char = false ∧ mark? char = none ∧ word? char = none ∧ char ≠ '"' := by
  have other {char special : Char}
      (starts : char = '-' ∨ (digit? char).isSome)
      (isSpecial : char = special)
      (notStart : ¬ (special = '-' ∨ (digit? special).isSome)) : False :=
    notStart (isSpecial ▸ starts)
  refine ⟨?_, ?_, ?_, fun isQuote => other starts isQuote (by decide)⟩
  · rw [Bool.eq_false_iff]
    intro space
    simp only [isSpace, Bool.or_eq_true, beq_iff_eq] at space
    rcases space with ((space | space) | space) | space <;>
      exact other starts space (by decide)
  · rw [mark?]
    repeat' split
    all_goals first
      | rfl
      | exact (other starts ‹_› (by decide)).elim
  · rw [word?]
    repeat' split
    all_goals first
      | rfl
      | exact (other starts ‹_› (by decide)).elim

theorem firstLexeme_of_starts
    {char : Char}
    (starts : char = '-' ∨ (digit? char).isSome)
    (offset : Nat)
    (rest : List Char) :
    firstLexeme offset char rest =
      match scanNumeral offset (char :: rest) with
      | .ok (numeral, others) =>
          ⟨⟨.number numeral.value, offset, numeral.stop⟩, others⟩
      | .error fault =>
          ⟨⟨.broken fault.reading fault.skipping, offset, fault.reading.offset⟩,
            []⟩ := by
  obtain ⟨-, noMark, noWord, notQuote⟩ := starts_numeral starts
  rw [firstLexeme, noMark, noWord]
  exact (if_neg notQuote).trans (if_pos starts)

/-- A number that something delimits is one lexeme. -/
theorem exists_runText_numeral
    {chars : List Char}
    (isNumeral : IsNumeral chars)
    (delimited : Delimited rest)
    (building : Building)
    (offset : Nat) :
    ∃ value stop,
      building.runText offset (chars ++ rest) =
          (building.step ⟨.number value, offset, stop⟩).runText stop rest ∧
        value.toOption = numberOf? chars := by
  obtain ⟨numeral, scanned, value⟩ := isNumeral.scans delimited offset
  obtain ⟨char, others, rfl, starts⟩ := isNumeral.exists_cons
  rw [List.cons_append] at scanned ⊢
  refine ⟨numeral.value, numeral.stop, runText_step (starts_numeral starts).1 ?_ rfl,
    value⟩
  rw [firstLexeme_of_starts starts, scanned]

/-! ## Where a value is wanted -/

end Building

/-- That a value is wanted. -/
inductive Phase.WantsValue : Phase → Prop where
  | value : WantsValue .value
  | firstItem : WantsValue .firstItem
  | nextItem : WantsValue .nextItem

/-- What a text leads to where a value is wanted. -/
inductive Building.Reaches
    (valueAt : Nat → Option Value)
    (stack : List Frame)
    (rest : List Char)
    (building : Building) :
    Prop where
  /-- A tree is delivered, and the text goes on after it. -/
  | delivered
      (tree : Tree)
      (stop : Nat)
      (goesOn : building = (deliver tree stack).runText stop rest)
      (reads : ∀ levels, (tree.readValue levels).toOption = valueAt levels)
  /-- The machine has stopped. -/
  | stopped
      (tree : Tree)
      (stops : building = .stopped tree)
      (unreadable : ∀ levels, valueAt levels = none)

/-- That a text is one that a value is read from, at most at some levels. -/
def Reads
    (chars : List Char)
    (valueAt : Nat → Option Value) :
    Prop :=
  ∀ phase stack offset rest, phase.WantsValue → Delimited rest →
    ((Building.waiting phase stack).runText offset (chars ++ rest)).Reaches valueAt
      stack rest

namespace Reads

variable
    {phase : Phase}
    {stack : List Frame}

theorem step_of_wantsValue
    (wants : phase.WantsValue)
    {placed : Placed}
    (notClosing : placed.lexeme ≠ .mark .closeArray) :
    (Building.waiting phase stack).step placed = .takeValue placed stack := by
  cases wants with
  | value => rfl
  | firstItem =>
      simp only [Building.step]
  | nextItem =>
      simp only [Building.step]

/-! ## Values without parts -/

/-- A lexeme that is a value is delivered. -/
theorem reaches_of_leaf
    {building : Building}
    {valueAt : Nat → Option Value}
    {placed : Placed}
    {tree : Tree}
    {stop : Nat}
    {rest : List Char}
    (wants : phase.WantsValue)
    (stepEq : building =
      ((Building.waiting phase stack).step placed).runText stop rest)
    (notClosing : placed.lexeme ≠ .mark .closeArray)
    (takes : Building.takeValue placed stack = .deliver tree stack)
    (reads : ∀ levels, (tree.readValue levels).toOption = valueAt levels) :
    building.Reaches valueAt stack rest := by
  rw [step_of_wantsValue wants notClosing, takes] at stepEq
  exact .delivered tree stop stepEq reads

theorem null : Reads ['n', 'u', 'l', 'l'] fun _ => some .null := by
  intro phase stack offset rest wants delimited
  exact reaches_of_leaf wants (Building.runText_step rfl rfl rfl) (by simp) rfl
    fun levels => rfl

theorem boolTrue : Reads ['t', 'r', 'u', 'e'] fun _ => some (.bool true) := by
  intro phase stack offset rest wants delimited
  exact reaches_of_leaf wants (Building.runText_step rfl rfl rfl) (by simp) rfl
    fun levels => rfl

theorem boolFalse :
    Reads ['f', 'a', 'l', 's', 'e'] fun _ => some (.bool false) := by
  intro phase stack offset rest wants delimited
  exact reaches_of_leaf wants (Building.runText_step rfl rfl rfl) (by simp) rfl
    fun levels => rfl

theorem toOption_map
    {ε α β : Type}
    (change : α → β)
    (outcome : Except ε α) :
    (outcome.map change).toOption = outcome.toOption.map change := by
  cases outcome <;> rfl

theorem string
    {body : List Char}
    (escaped : Escaped body) :
    Reads ('"' :: (body ++ ['"'])) fun _ => (keptText? body).map .string := by
  intro phase stack offset rest wants delimited
  obtain ⟨value, stop, stepEq, kept⟩ :=
    Building.exists_runText_quote escaped (.waiting phase stack) offset rest
  rw [List.cons_append, List.append_assoc, List.singleton_append]
  refine reaches_of_leaf wants stepEq (by simp) rfl fun levels => ?_
  rw [Tree.readValue, toOption_map, kept]

theorem numeral
    {chars : List Char}
    (isNumeral : IsNumeral chars) :
    Reads chars fun _ => (numberOf? chars).map .number := by
  intro phase stack offset rest wants delimited
  obtain ⟨value, stop, stepEq, number⟩ :=
    Building.exists_runText_numeral isNumeral delimited (.waiting phase stack) offset
  refine reaches_of_leaf wants stepEq (by simp) rfl fun levels => ?_
  rw [Tree.readValue, toOption_map, number]

/-- At a lexeme that breaks off the machine stops. -/
theorem reaches_of_final
    {building : Building}
    {placed : Placed}
    {rest : List Char}
    (wants : phase.WantsValue)
    (stepEq : building = (Building.waiting phase stack).step placed)
    (isFinal : placed.lexeme.isFinal = true) :
    building.Reaches (fun _ => none) stack rest := by
  obtain ⟨lexeme, start, stop⟩ := placed
  cases lexeme with
  | broken reading skipping =>
      rw [step_of_wantsValue wants (by simp)] at stepEq
      exact .stopped _ stepEq fun _ => rfl
  | brokenString reading skipping =>
      rw [step_of_wantsValue wants (by simp)] at stepEq
      exact .stopped _ stepEq fun _ => rfl
  | stray =>
      rw [step_of_wantsValue wants (by simp)] at stepEq
      exact .stopped _ stepEq fun _ => rfl
  | mark | null | bool | number | string => cases isFinal

/-- No number is read from the name of an infinite one. -/
theorem infinity : Reads "Infinity".toList fun _ => none := by
  intro phase stack offset rest wants delimited
  exact reaches_of_final wants (Building.runText_final rfl rfl rfl) rfl

theorem negativeInfinity : Reads "-Infinity".toList fun _ => none := by
  intro phase stack offset rest wants delimited
  exact reaches_of_final wants (Building.runText_final rfl rfl rfl) rfl

/-! ## Values with parts -/

/-- The levels left inside a list or an object. -/
def innerLevel? : Nat → Option Nat
  | levels + 2 => some (levels + 1)
  | _ => none

theorem innerLevel?_eq_some_iff {levels inner : Nat} :
    innerLevel? levels = some inner ↔ levels = inner + 1 ∧ 0 < inner := by
  match levels with
  | 0 => simp [innerLevel?]
  | 1 =>
      simp only [innerLevel?, reduceCtorEq, false_iff]
      omega
  | levels + 2 =>
      simp only [innerLevel?, Option.some.injEq]
      omega

theorem toOption_openLevel
    (start levels : Nat) :
    (openLevel start levels).toOption = innerLevel? levels := by
  match levels with
  | 0 | 1 => rfl
  | _ + 2 => rfl

/-- A text that is written, and what is read from it. -/
structure Part where
  chars : List Char
  valueAt : Nat → Option Value

/-- The text of several texts with commas between them. -/
def joined (texts : List (List Char)) : List Char :=
  List.intercalate [',', ' '] texts

/-- What is read from the items of a list. -/
def itemsAt
    (items : List Part)
    (levels : Nat) :
    Option (List Value) :=
  items.mapM fun item => item.valueAt levels

theorem delimited_mark
    {char : Char}
    (isMark : char = ',' ∨ char = ']' ∨ char = '\x7d')
    (rest : List Char) :
    Delimited (char :: rest) := by
  intro first isFirst
  cases isFirst
  rcases isMark with isComma | isBracket | isBrace
  · exact .inl isComma
  · exact .inr (.inl isBracket)
  · exact .inr (.inr (.inl isBrace))

theorem toOption_bind
    {ε α β : Type}
    (outcome : Except ε α)
    (next : α → Except ε β) :
    (outcome >>= next).toOption =
      outcome.toOption.bind fun found => (next found).toOption := by
  cases outcome <;> rfl

theorem toOption_readValues
    {item : Part}
    {items : List Part}
    {tree : Tree}
    {trees : List Tree}
    (first : ∀ levels, (tree.readValue levels).toOption = item.valueAt levels)
    (others : ∀ levels,
      (Tree.readValues levels trees).toOption = itemsAt items levels)
    (levels : Nat) :
    (Tree.readValues levels (tree :: trees)).toOption =
      itemsAt (item :: items) levels := by
  rw [Tree.readValues, toOption_bind, first]
  simp only [toOption_bind, others, itemsAt, List.mapM_cons]
  rfl

/-- What items lead to: they are all delivered, or the machine has stopped. -/
inductive ReachesItems
    (items : List Part)
    (start : Nat)
    (taken : List Tree)
    (stack : List Frame)
    (rest : List Char)
    (building : Building) :
    Prop where
  | delivered
      (trees : List Tree)
      (stop closed : Nat)
      (goesOn : building =
        (Building.deliver (.array start (taken.reverse ++ trees) (.closed closed))
          stack).runText stop rest)
      (reads : ∀ levels,
        (Tree.readValues levels trees).toOption = itemsAt items levels)
  | stopped
      (tree : Tree)
      (stops : building = .stopped tree)
      (unreadable : ∀ levels, itemsAt items levels = none)

/-- Items one after the other are read one after the other. -/
theorem reachesItems
    (item : Part)
    (items : List Part)
    (reads : ∀ one ∈ item :: items, Reads one.chars one.valueAt)
    (wants : phase.WantsValue)
    (start : Nat)
    (taken : List Tree)
    (stack : List Frame)
    (offset : Nat)
    (rest : List Char) :
    ReachesItems (item :: items) start taken stack rest
      ((Building.waiting phase (.array start taken :: stack)).runText offset
        (joined ((item :: items).map Part.chars) ++ ']' :: rest)) := by
  induction items generalizing item phase taken offset with
  | nil =>
      rw [List.map_singleton, joined, List.intercalate_singleton]
      cases reads item List.mem_cons_self phase (.array start taken :: stack) offset
          (']' :: rest) wants (delimited_mark (.inr (.inl rfl)) rest) with
      | delivered tree stop goesOn treeReads =>
          rw [Building.deliver, Building.runText_mark rfl rfl] at goesOn
          refine .delivered [tree] (stop + 1) (stop + 1) ?_
            (toOption_readValues treeReads fun _ => rfl)
          rw [goesOn]
          simp [Building.step, Building.takeSeparator, Building.close,
            Building.closeFrame]
      | stopped tree stops unreadable =>
          refine .stopped tree stops fun levels => ?_
          rw [itemsAt, List.mapM_cons, unreadable]
          rfl
  | cons second items inductionHypothesis =>
      let later := joined ((second :: items).map Part.chars) ++ ']' :: rest
      have split : joined ((item :: second :: items).map Part.chars) ++ ']' :: rest =
          item.chars ++ ',' :: ' ' :: later := by
        simp only [List.map_cons, joined, List.intercalate_cons_cons,
          List.append_assoc, later]
        rfl
      rw [split]
      cases reads item List.mem_cons_self phase (.array start taken :: stack) offset
          (',' :: ' ' :: later) wants (delimited_mark (.inl rfl) _) with
      | delivered tree stop goesOn treeReads =>
          have others := inductionHypothesis second
            (fun one member => reads one (List.mem_cons_of_mem _ member))
            .nextItem (tree :: taken) (stop + 1 + 1)
          rw [Building.deliver, Building.runText_mark rfl rfl] at goesOn
          simp only [Building.step, Building.takeSeparator] at goesOn
          rw [Building.runText_space] at goesOn
          rw [goesOn]
          cases others with
          | delivered trees last closed goesOn othersRead =>
              refine .delivered (tree :: trees) last closed ?_
                (toOption_readValues treeReads othersRead)
              rw [goesOn, List.reverse_cons, List.append_assoc,
                List.singleton_append]
          | stopped broken stops unreadable =>
              refine .stopped broken stops fun levels => ?_
              have unreadableHere := unreadable levels
              rw [itemsAt] at unreadableHere ⊢
              rw [List.mapM_cons, unreadableHere]
              cases item.valueAt levels <;> rfl
      | stopped tree stops unreadable =>
          refine .stopped tree stops fun levels => ?_
          rw [itemsAt, List.mapM_cons, unreadable]
          rfl

/-- What is read from a list, given what is read from its items. -/
def arrayAt
    (valuesAt : Nat → Option (List Value))
    (levels : Nat) :
    Option Value := do
  let inner ← innerLevel? levels
  let values ← valuesAt inner
  some (.array values)

theorem toOption_readArray
    {items : List Part}
    {trees : List Tree}
    (reads : ∀ levels,
      (Tree.readValues levels trees).toOption = itemsAt items levels)
    (start closed levels : Nat) :
    ((Tree.array start trees (.closed closed)).readValue levels).toOption =
      arrayAt (itemsAt items) levels := by
  rw [Tree.readValue, toOption_bind, toOption_openLevel]
  simp only [toOption_bind, reads]
  rfl

/-- A list of written items is read item by item. -/
theorem array
    (items : List Part)
    (reads : ∀ item ∈ items, Reads item.chars item.valueAt) :
    Reads ('[' :: (joined (items.map Part.chars) ++ [']']))
      (arrayAt (itemsAt items)) := by
  intro phase stack offset rest wants delimited
  rw [List.cons_append, List.append_assoc, List.singleton_append,
    Building.runText_mark rfl rfl, step_of_wantsValue wants (by simp),
    Building.takeValue]
  cases items with
  | nil =>
      rw [List.map_nil, joined, List.intercalate_nil, List.nil_append,
        Building.runText_mark rfl rfl]
      exact .delivered _ _ rfl (toOption_readArray (fun _ => rfl) _ _)
  | cons item items =>
      cases reachesItems item items reads .firstItem offset [] stack (offset + 1)
          rest with
      | delivered trees stop closed goesOn treesRead =>
          exact .delivered _ _ goesOn (toOption_readArray treesRead _ _)
      | stopped tree stops unreadable =>
          refine .stopped tree stops fun levels => ?_
          rw [arrayAt]
          cases innerLevel? levels with
          | none => rfl
          | some inner => simp [unreadable]

/-- A member that is written: what stands between the quotes, and its content. -/
structure Entry where
  name : List Char
  content : Part

/-- The text of a member. -/
def Entry.chars (entry : Entry) : List Char :=
  '"' :: (entry.name ++ '"' :: ':' :: ' ' :: entry.content.chars)

/-- What is read from a member. -/
def Entry.readAt
    (entry : Entry)
    (levels : Nat) :
    Option (String × Value) := do
  let name ← keptText? entry.name
  let value ← entry.content.valueAt levels
  some (name, value)

/-- What is read from the members of an object. -/
def membersAt
    (entries : List Entry)
    (levels : Nat) :
    Option (List (String × Value)) :=
  entries.mapM fun entry => entry.readAt levels

/-- That a member can be read. -/
structure Entry.Readable (entry : Entry) : Prop where
  escaped : Escaped entry.name
  reads : Reads entry.content.chars entry.content.valueAt

theorem toOption_readMembers
    {entry : Entry}
    {entries : List Entry}
    {key : Key}
    {tree : Tree}
    {trees : List (Key × Tree)}
    (name : key.name.toOption = keptText? entry.name)
    (first : ∀ levels,
      (tree.readValue levels).toOption = entry.content.valueAt levels)
    (others : ∀ levels,
      (Tree.readMembers levels trees).toOption = membersAt entries levels)
    (levels : Nat) :
    (Tree.readMembers levels ((key, tree) :: trees)).toOption =
      membersAt (entry :: entries) levels := by
  rw [Tree.readMembers, toOption_bind, name]
  simp only [toOption_bind, first, others, membersAt, List.mapM_cons, Entry.readAt]
  cases keptText? entry.name with
  | none => rfl
  | some name => cases entry.content.valueAt levels <;> rfl

/-- What members lead to: they are all delivered, or the machine has stopped. -/
inductive ReachesMembers
    (entries : List Entry)
    (start : Nat)
    (taken : List (Key × Tree))
    (stack : List Frame)
    (rest : List Char)
    (building : Building) :
    Prop where
  | delivered
      (trees : List (Key × Tree))
      (stop closed : Nat)
      (goesOn : building =
        (Building.deliver (.object start (taken.reverse ++ trees) (.closed closed))
          stack).runText stop rest)
      (reads : ∀ levels,
        (Tree.readMembers levels trees).toOption = membersAt entries levels)
  | stopped
      (tree : Tree)
      (stops : building = .stopped tree)
      (unreadable : ∀ levels, membersAt entries levels = none)

theorem membersAt_cons_of_none
    {entry : Entry}
    {entries : List Entry}
    {levels : Nat}
    (unreadable : entry.content.valueAt levels = none ∨
      membersAt entries levels = none) :
    membersAt (entry :: entries) levels = none := by
  rw [membersAt, List.mapM_cons, ← membersAt, Entry.readAt]
  cases keptText? entry.name with
  | none => rfl
  | some name =>
      rcases unreadable with content | others
      · rw [content]
        rfl
      · rw [others]
        cases entry.content.valueAt levels <;> rfl

/-- A name and a colon lead to where the content is wanted. -/
theorem exists_runText_name
    {entry : Entry}
    (escaped : Escaped entry.name)
    (isKey : phase = .firstKey ∨ phase = .nextKey)
    (start : Nat)
    (taken : List (Key × Tree))
    (stack : List Frame)
    (offset : Nat)
    (rest : List Char) :
    ∃ key stop,
      (Building.waiting phase (.object start taken none :: stack)).runText offset
          (entry.chars ++ rest) =
        (Building.waiting .value (.object start taken (some key) :: stack)).runText
          stop (entry.content.chars ++ rest) ∧
        key.name.toOption = keptText? entry.name := by
  have split : entry.chars ++ rest =
      '"' :: (entry.name ++ '"' :: ':' :: ' ' :: (entry.content.chars ++ rest)) := by
    simp [Entry.chars]
  obtain ⟨name, stop, stepEq, kept⟩ :=
    Building.exists_runText_quote escaped
      (.waiting phase (.object start taken none :: stack)) offset
      (':' :: ' ' :: (entry.content.chars ++ rest))
  refine ⟨⟨name, stop⟩, stop + 1 + 1, ?_, kept⟩
  rw [split, stepEq, Building.runText_mark rfl rfl, Building.runText_space]
  rcases isKey with rfl | rfl <;> rfl

/-- Members one after the other are read one after the other. -/
theorem reachesMembers
    (entry : Entry)
    (entries : List Entry)
    (readable : ∀ one ∈ entry :: entries, one.Readable)
    (isKey : phase = .firstKey ∨ phase = .nextKey)
    (start : Nat)
    (taken : List (Key × Tree))
    (stack : List Frame)
    (offset : Nat)
    (rest : List Char) :
    ReachesMembers (entry :: entries) start taken stack rest
      ((Building.waiting phase (.object start taken none :: stack)).runText offset
        (joined ((entry :: entries).map Entry.chars) ++ '\x7d' :: rest)) := by
  induction entries generalizing entry phase taken offset with
  | nil =>
      obtain ⟨escaped, reads⟩ := readable entry List.mem_cons_self
      obtain ⟨key, stop, named, name⟩ :=
        exists_runText_name escaped isKey start taken stack offset ('\x7d' :: rest)
      rw [List.map_singleton, joined, List.intercalate_singleton, named]
      cases reads .value (.object start taken (some key) :: stack) stop
          ('\x7d' :: rest) .value (delimited_mark (.inr (.inr rfl)) rest) with
      | delivered tree stop goesOn treeReads =>
          rw [Building.deliver, Building.runText_mark rfl rfl] at goesOn
          refine .delivered [(key, tree)] (stop + 1) (stop + 1) ?_
            (toOption_readMembers name treeReads fun _ => rfl)
          rw [goesOn]
          simp [Building.step, Building.takeSeparator, Building.close,
            Building.closeFrame]
      | stopped tree stops unreadable =>
          exact .stopped tree stops fun levels =>
            membersAt_cons_of_none (.inl (unreadable levels))
  | cons second entries inductionHypothesis =>
      let later := joined ((second :: entries).map Entry.chars) ++ '\x7d' :: rest
      have split :
          joined ((entry :: second :: entries).map Entry.chars) ++ '\x7d' :: rest =
            entry.chars ++ ',' :: ' ' :: later := by
        simp only [List.map_cons, joined, List.intercalate_cons_cons,
          List.append_assoc, later]
        rfl
      obtain ⟨escaped, reads⟩ := readable entry List.mem_cons_self
      obtain ⟨key, stop, named, name⟩ :=
        exists_runText_name escaped isKey start taken stack offset
          (',' :: ' ' :: later)
      rw [split, named]
      cases reads .value (.object start taken (some key) :: stack) stop
          (',' :: ' ' :: later) .value (delimited_mark (.inl rfl) _) with
      | delivered tree stop goesOn treeReads =>
          have others := inductionHypothesis second
            (fun one member => readable one (List.mem_cons_of_mem _ member))
            (.inr rfl) ((key, tree) :: taken) (stop + 1 + 1)
          rw [Building.deliver, Building.runText_mark rfl rfl] at goesOn
          simp only [Building.step, Building.takeSeparator] at goesOn
          rw [Building.runText_space] at goesOn
          rw [goesOn]
          cases others with
          | delivered trees last closed goesOn othersRead =>
              refine .delivered ((key, tree) :: trees) last closed ?_
                (toOption_readMembers name treeReads othersRead)
              rw [goesOn, List.reverse_cons, List.append_assoc,
                List.singleton_append]
          | stopped broken stops unreadable =>
              exact .stopped broken stops fun levels =>
                membersAt_cons_of_none (.inr (unreadable levels))
      | stopped tree stops unreadable =>
          exact .stopped tree stops fun levels =>
            membersAt_cons_of_none (.inl (unreadable levels))

/-- What is read from an object, given what is read from its members. -/
def objectAt
    (namedAt : Nat → Option (List (String × Value)))
    (levels : Nat) :
    Option Value := do
  let inner ← innerLevel? levels
  let named ← namedAt inner
  some (.object (sortMembers named))

theorem toOption_readObject
    {entries : List Entry}
    {trees : List (Key × Tree)}
    (reads : ∀ levels,
      (Tree.readMembers levels trees).toOption = membersAt entries levels)
    (start closed levels : Nat) :
    ((Tree.object start trees (.closed closed)).readValue levels).toOption =
      objectAt (membersAt entries) levels := by
  rw [Tree.readValue, toOption_bind, toOption_openLevel]
  simp only [toOption_bind, reads]
  rfl

/-- An object of written members is read member by member. -/
theorem object
    (entries : List Entry)
    (readable : ∀ entry ∈ entries, entry.Readable) :
    Reads ('\x7b' :: (joined (entries.map Entry.chars) ++ ['\x7d']))
      (objectAt (membersAt entries)) := by
  intro phase stack offset rest wants delimited
  rw [List.cons_append, List.append_assoc, List.singleton_append,
    Building.runText_mark rfl rfl, step_of_wantsValue wants (by simp),
    Building.takeValue]
  cases entries with
  | nil =>
      rw [List.map_nil, joined, List.intercalate_nil, List.nil_append,
        Building.runText_mark rfl rfl]
      exact .delivered _ _ rfl (toOption_readObject (fun _ => rfl) _ _)
  | cons entry entries =>
      cases reachesMembers entry entries readable (.inl rfl) offset [] stack
          (offset + 1) rest with
      | delivered trees stop closed goesOn treesRead =>
          exact .delivered _ _ goesOn (toOption_readObject treesRead _ _)
      | stopped tree stops unreadable =>
          refine .stopped tree stops fun levels => ?_
          rw [objectAt]
          cases innerLevel? levels with
          | none => rfl
          | some inner => simp [unreadable]

/-! ## Whole texts -/

/-- A decoder of any members gives the members of the object that is read. -/
theorem toOption_map_value
    (tree : Tree)
    (levels : Nat) :
    (Decoder.map Decoder.value levels tree).toOption =
      (tree.readValue levels).toOption.bind Value.asObject? := by
  have sameMembers (inner : Nat) (members : List (Key × Tree)) :
      Decoder.eachMember (Decoder.value inner) members =
        Tree.readMembers inner members := by
    induction members with
    | nil => rfl
    | cons member members inductionHypothesis =>
        rw [Decoder.eachMember, Tree.readMembers, inductionHypothesis]
        rfl
  cases tree with
  | null | bool | broken => rfl
  | number value => cases value <;> rfl
  | string value => cases value <;> rfl
  | array start items ending =>
      simp only [Decoder.map, Tree.readValue, toOption_bind]
      cases (openLevel start levels).toOption with
      | none => rfl
      | some inner =>
          simp only [Option.bind_some]
          cases (Tree.readValues inner items).toOption with
          | none => rfl
          | some values => cases ending <;> rfl
  | object start members ending =>
      simp only [Decoder.map, Tree.readValue, toOption_bind, sameMembers]
      cases (openLevel start levels).toOption with
      | none => rfl
      | some inner =>
          simp only [Option.bind_some]
          cases (Tree.readMembers inner members).toOption with
          | none => rfl
          | some named => cases ending <;> rfl

/-- The document of a text whose value is complete. -/
theorem document_of_complete
    {text : String}
    {tree : Tree}
    (complete : (Building.waiting .value []).runText 0 text.toList =
      .complete tree none) :
    Document.of text = ⟨tree, none⟩ := by
  rw [Building.runText] at complete
  simp only [Document.of, Document.ofChars, Building.initial, complete,
    Building.finish, Option.map_none]

/-- The document of a text at which the machine stops. -/
theorem document_of_stopped
    {text : String}
    {tree : Tree}
    (stopped : (Building.waiting .value []).runText 0 text.toList =
      .stopped tree) :
    Document.of text = ⟨tree, none⟩ := by
  rw [Building.runText] at stopped
  simp only [Document.of, Document.ofChars, Building.initial, stopped,
    Building.finish]

/-- A whole text has a document, from which is read what is read from it anywhere. -/
theorem exists_document
    {text : String}
    {valueAt : Nat → Option Value}
    (reads : Reads text.toList valueAt) :
    ∃ tree, Document.of text = ⟨tree, none⟩ ∧
      ∀ levels, (tree.readValue levels).toOption = valueAt levels := by
  have reached := reads .value [] 0 [] .value delimited_nil
  rw [List.append_nil] at reached
  cases reached with
  | delivered tree stop goesOn treeReads =>
      rw [Building.runText_nil, Building.deliver] at goesOn
      exact ⟨tree, document_of_complete goesOn, treeReads⟩
  | stopped tree stops unreadable =>
      have cut : tree.IsCut :=
        (Building.stopsCut_waiting .value []).run (lexemes 0 text.toList) tree stops
      refine ⟨tree, document_of_stopped stops, fun levels => ?_⟩
      rw [unreadable]
      cases read : tree.readValue levels with
      | error fault => rfl
      | ok value => exact (cut.readValue_ne_ok levels value read).elim

/-- Nothing follows the value of a whole text, so decoding it is decoding its tree. -/
theorem toOption_decode_of_document
    {α : Type}
    (decoder : Decoder α)
    {text : String}
    {tree : Tree}
    (document : Document.of text = ⟨tree, none⟩) :
    (decode decoder text).toOption = (decoder levelLimit tree).toOption := by
  rw [decode, document]
  simp only
  cases decoder levelLimit tree <;> rfl

/-- A whole text is read as what it is read as anywhere. -/
theorem toOption_decode_value
    {text : String}
    {valueAt : Nat → Option Value}
    (reads : Reads text.toList valueAt) :
    (decode Decoder.value text).toOption = valueAt levelLimit := by
  obtain ⟨tree, document, treeReads⟩ := reads.exists_document
  rw [toOption_decode_of_document Decoder.value document]
  exact treeReads levelLimit

/-- The members of a whole text are those of the object that is read from it. -/
theorem toOption_decode
    {text : String}
    {valueAt : Nat → Option Value}
    (reads : Reads text.toList valueAt) :
    (decode (Decoder.map Decoder.value) text).toOption =
      (valueAt levelLimit).bind Value.asObject? := by
  obtain ⟨tree, document, treeReads⟩ := reads.exists_document
  rw [toOption_decode_of_document _ document, toOption_map_value, treeReads]

end Reads

end ApiTree.Json
