import ApiTree.Dump.Reader
import ApiTree.Proofs.Text.Lines

/-!
# The lines that errors report

A dump of one module on each line is refused at the first line that neither is blank nor
holds a module, and the error reports the number of that line.  A dump that is one list
is read without the white space in front of it, and the error reports the line of what
was read: it is a line of the dump only if no line feed stands before the list.
-/

namespace ApiTree.Json

/-! ## Places behind other characters -/

theorem byteCount_cons
    (char : Char)
    (chars : List Char) :
    byteCount (char :: chars) = char.utf8Size + byteCount chars := by
  have shifted (start : Nat) :
      chars.foldl (fun count char => count + char.utf8Size) start =
        start + byteCount chars := by
    rw [byteCount]
    induction chars generalizing start with
    | nil => rfl
    | cons first rest inductionHypothesis =>
        rw [List.foldl_cons, List.foldl_cons, inductionHypothesis,
          inductionHypothesis (0 + _), ← Nat.add_assoc, Nat.zero_add]
  rw [byteCount, List.foldl_cons, shifted, Nat.zero_add]

/-- The line of a place counts from the line of the start, at whatever column. -/
theorem Position.line_advance_add
    (line count column other bytes : Nat)
    (chars : List Char) :
    (Position.advance ⟨line + count, column⟩ bytes chars).line =
      (Position.advance ⟨line, other⟩ bytes chars).line + count := by
  induction chars generalizing line column other bytes with
  | nil => rfl
  | cons char rest inductionHypothesis =>
      rw [advance, advance]
      split
      · rfl
      · split
        · rw [Nat.add_right_comm, inductionHypothesis]
        · exact inductionHypothesis _ _ _ _

/-- A place behind other characters is as many lines below as they hold line feeds. -/
theorem Position.line_advance_append
    (start : Position)
    (bytes : Nat)
    (front chars : List Char) :
    (Position.advance start (byteCount front + bytes) (front ++ chars)).line =
      (Position.advance start bytes chars).line + front.count '\n' := by
  induction front generalizing start with
  | nil => simp [byteCount]
  | cons char rest inductionHypothesis =>
      obtain ⟨line, column⟩ := start
      have fits : ¬ byteCount (char :: rest) + bytes < char.utf8Size := by
        rw [byteCount_cons]
        omega
      have left : byteCount (char :: rest) + bytes - char.utf8Size =
          byteCount rest + bytes := by
        rw [byteCount_cons]
        omega
      rw [List.cons_append, advance, if_neg fits, left]
      split
      · rename_i isFeed
        subst isFeed
        rw [inductionHypothesis, line_advance_add line 1 0 column, List.count_cons_self]
        omega
      · rename_i notFeed
        rw [inductionHypothesis, List.count_cons_of_ne notFeed]
        congr 1
        exact line_advance_add line 0 _ _ _ _

end ApiTree.Json

namespace ApiTree.Dump

open ApiTree.Json (Decoder Fault Position byteCount)
open ApiTree.Text (dropBlanks firstInk? isAllBlank isBlank lineChars splitChars trimStart)

/-! ## Lines -/

/-- That a line is passed: it is blank, or it holds a module. -/
def Passes (line : String) : Prop :=
  isAllBlank line = true ∨ ∃ object, Json.decode ApiObject.decoder line = .ok object

/-- That a line is where reading stops: it is not blank, and no module is decoded. -/
structure StopsAt (line : String) (fault : Fault) : Prop where
  inked : isAllBlank line = false
  fails : Json.decode ApiObject.decoder line = .error fault

/-- That an error reports the first of some lines that is not passed, by its number. -/
def ReportsFirst
    (first : Nat)
    (lines : List String)
    (error : DumpError) :
    Prop :=
  ∃ front back, lines = front ++ error.text :: back ∧
    (∀ line ∈ front, Passes line) ∧ StopsAt error.text error.fault ∧
    error.line = first + front.length

section ReportsFirst

variable
    {first : Nat}
    {line : String}
    {lines : List String}
    {fault : Fault}
    {error : DumpError}

theorem StopsAt.not_passes (stops : StopsAt line fault) : ¬ Passes line := by
  rintro (blank | ⟨object, decodes⟩)
  · rw [stops.inked] at blank
    cases blank
  · rw [stops.fails] at decodes
    cases decodes

theorem reportsFirst_cons_of_passes (passes : Passes line) :
    ReportsFirst first (line :: lines) error ↔ ReportsFirst (first + 1) lines error := by
  constructor
  · rintro ⟨front, back, split, frontPasses, stops, lineEq⟩
    cases front with
    | nil =>
        obtain ⟨rfl, -⟩ := List.cons.inj split
        exact (stops.not_passes passes).elim
    | cons _ front =>
        obtain ⟨rfl, rfl⟩ := List.cons.inj split
        refine ⟨front, back, rfl, (List.forall_mem_cons.mp frontPasses).2, stops, ?_⟩
        rw [lineEq, List.length_cons]
        omega
  · rintro ⟨front, back, rfl, frontPasses, stops, lineEq⟩
    refine ⟨line :: front, back, rfl, List.forall_mem_cons.mpr ⟨passes, frontPasses⟩,
      stops, ?_⟩
    rw [lineEq, List.length_cons]
    omega

theorem reportsFirst_cons_of_stopsAt (stops : StopsAt line fault) :
    ReportsFirst first (line :: lines) error ↔ error = ⟨first, fault, line⟩ := by
  constructor
  · rintro ⟨front, back, split, frontPasses, stopsThere, lineEq⟩
    cases front with
    | nil =>
        obtain ⟨rfl, -⟩ := List.cons.inj split
        have same := Except.error.inj (stops.fails.symm.trans stopsThere.fails)
        rw [same, ← Nat.add_zero first]
        exact congrArg (DumpError.mk · error.fault error.text) lineEq
    | cons _ front =>
        obtain ⟨rfl, -⟩ := List.cons.inj split
        exact (stops.not_passes (frontPasses _ List.mem_cons_self)).elim
  · rintro rfl
    exact ⟨[], lines, rfl, List.forall_mem_nil _, stops, rfl⟩

/-- Lines are refused with an error that reports the first that is not passed. -/
theorem readLines_eq_error_iff :
    readLines first lines = .error error ↔ ReportsFirst first lines error := by
  induction lines generalizing first with
  | nil =>
      constructor
      · rintro ⟨⟩
      · rintro ⟨front, back, split, -⟩
        simp at split
  | cons line lines inductionHypothesis =>
      rw [readLines]
      cases blank : isAllBlank line with
      | true =>
          rw [reportsFirst_cons_of_passes (.inl blank)]
          exact inductionHypothesis
      | false =>
          rw [readLine]
          cases decoded : Json.decode ApiObject.decoder line with
          | ok object =>
              rw [reportsFirst_cons_of_passes (.inr ⟨object, decoded⟩),
                ← inductionHypothesis]
              cases readLines (first + 1) lines <;> simp [bind, Except.bind]
          | error fault =>
              rw [reportsFirst_cons_of_stopsAt ⟨blank, decoded⟩]
              exact ⟨fun fails => (Except.error.inj fails).symm,
                fun same => congrArg Except.error same.symm⟩

/-- Blank lines in front only count. -/
theorem reportsFirst_replicate_append
    (count : Nat) :
    ReportsFirst first (List.replicate count "" ++ lines) error ↔
      ReportsFirst (first + count) lines error := by
  induction count generalizing first with
  | zero => rfl
  | succ count inductionHypothesis =>
      have passes : Passes "" := .inl (by decide)
      rw [List.replicate_succ, List.cons_append, reportsFirst_cons_of_passes passes,
        inductionHypothesis, Nat.add_right_comm, Nat.add_assoc]

end ReportsFirst

/-! ## Line feeds in front -/

/-- A text of line feeds alone. -/
def feeds (count : Nat) : String :=
  String.ofList (List.replicate count '\n')

/-- That what follows the white space of a dump opens a list. -/
def IsList (input : String) : Prop :=
  firstInk? input.toList = some '['

instance (input : String) : Decidable (IsList input) :=
  inferInstanceAs (Decidable (_ = _))

theorem lineChars_feed_cons (chars : List Char) :
    lineChars ('\n' :: chars) = [] :: lineChars chars := by
  rcases List.eq_nil_or_concat (splitChars (· == '\n') chars) with
    noPieces | ⟨front, last, split⟩
  · rw [ApiTree.Text.splitChars_eq_splitOnP] at noPieces
    exact (List.splitOnP_ne_nil _ chars noPieces).elim
  · rw [List.concat_eq_append] at split
    have feedSplit : splitChars (· == '\n') ('\n' :: chars) = ([] :: front) ++ [last] := by
      simp [splitChars, split]
    rw [ApiTree.Text.lineChars_of_split split, ApiTree.Text.lineChars_of_split feedSplit]
    rfl

theorem lines_feeds_append
    (count : Nat)
    (input : String) :
    ApiTree.Text.lines (feeds count ++ input) =
      List.replicate count "" ++ ApiTree.Text.lines input := by
  have onChars : lineChars (List.replicate count '\n' ++ input.toList) =
      List.replicate count [] ++ lineChars input.toList := by
    induction count with
    | zero => rfl
    | succ count inductionHypothesis =>
        rw [List.replicate_succ, List.cons_append, lineChars_feed_cons,
          inductionHypothesis, List.replicate_succ, List.cons_append]
  rw [ApiTree.Text.lines, String.toList_append, feeds, String.toList_ofList, onChars,
    List.map_append, List.map_replicate]
  rfl

theorem trimStart_feeds_append
    (count : Nat)
    (input : String) :
    trimStart (feeds count ++ input) = trimStart input := by
  have onChars : dropBlanks (List.replicate count '\n' ++ input.toList) =
      dropBlanks input.toList := by
    induction count with
    | zero => rfl
    | succ count inductionHypothesis => exact inductionHypothesis
  rw [trimStart, String.toList_append, feeds, String.toList_ofList, onChars, trimStart]

theorem read_eq (input : String) :
    read input =
      if IsList input then readList (trimStart input)
      else readLines 1 (ApiTree.Text.lines input) := by
  simp only [read, trimStart, String.toList_ofList, ApiTree.Text.head?_dropBlanks, IsList]
  rfl

theorem isList_feeds_append
    (count : Nat)
    (input : String) :
    IsList (feeds count ++ input) ↔ IsList input := by
  have noInk : firstInk? (feeds count).toList = none := by
    refine List.find?_eq_none.mpr fun char isFeed => ?_
    rw [feeds, String.toList_ofList] at isFeed
    rw [List.eq_of_mem_replicate isFeed]
    decide
  rw [IsList, String.toList_append, ApiTree.Text.firstInk?_append, noInk, Option.none_or,
    IsList]

/-! ## Errors of a dump -/

/-- The white space that a dump starts with. -/
def leadingBlanks (input : String) : List Char :=
  input.toList.takeWhile isBlank

/--
That an error reports what is wrong with a dump: in a list the fault that decoding it
meets, with its line in the text without leading white space; otherwise the first line
that is not passed, counting from one.
-/
inductive Reports (input : String) (error : DumpError) : Prop where
  | list
      (isList : IsList input)
      (text_eq : error.text = trimStart input)
      (fails : Json.decode (Decoder.list ApiObject.decoder) error.text =
        .error error.fault)
      (line_eq : error.line = (Position.of error.text error.fault.offset).line)
  | line
      (notList : ¬ IsList input)
      (first : ReportsFirst 1 (ApiTree.Text.lines input) error)

theorem readList_eq_error_iff
    {text : String}
    {error : DumpError} :
    readList text = .error error ↔
      error.text = text ∧
        Json.decode (Decoder.list ApiObject.decoder) text = .error error.fault ∧
        error.line = (Position.of text error.fault.offset).line := by
  obtain ⟨line, fault, origin⟩ := error
  rw [readList]
  cases decoded : Json.decode (Decoder.list ApiObject.decoder) text with
  | ok objects => simp
  | error found =>
      simp only [Except.error.injEq, DumpError.mk.injEq]
      constructor
      · rintro ⟨rfl, rfl, rfl⟩
        exact ⟨rfl, rfl, rfl⟩
      · rintro ⟨rfl, rfl, rfl⟩
        exact ⟨rfl, rfl, rfl⟩

theorem read_eq_error_iff
    {input : String}
    {error : DumpError} :
    read input = .error error ↔ Reports input error := by
  rw [read_eq]
  by_cases isList : IsList input
  · rw [if_pos isList, readList_eq_error_iff]
    constructor
    · rintro ⟨text_eq, fails, line_eq⟩
      rw [← text_eq] at fails line_eq
      exact .list isList text_eq fails line_eq
    · intro reports
      cases reports with
      | list _ text_eq fails line_eq =>
          rw [text_eq] at fails line_eq
          exact ⟨text_eq, fails, line_eq⟩
      | line notList => exact (notList isList).elim
  · rw [if_neg isList, readLines_eq_error_iff]
    constructor
    · exact .line isList
    · intro reports
      cases reports with
      | list isListToo => exact (isList isListToo).elim
      | line _ first => exact first

/-- The fault of a list stands as far below as line feeds stand before the list. -/
theorem line_behind_blanks
    (input : String)
    (offset : Nat) :
    (Position.of input (byteCount (leadingBlanks input) + offset)).line =
      (Position.of (trimStart input) offset).line + (leadingBlanks input).count '\n' := by
  have split : input.toList = leadingBlanks input ++ dropBlanks input.toList :=
    List.takeWhile_append_dropWhile.symm
  rw [Position.of, split, Json.Position.line_advance_append, Position.of, trimStart,
    String.toList_ofList]

/-- An error that reports a later line. -/
def DumpError.movedBy
    (count : Nat)
    (error : DumpError) :
    DumpError :=
  { error with line := error.line + count }

theorem Reports.feeds_append
    {input : String}
    {error : DumpError}
    (reports : Reports input error)
    (count : Nat) :
    Reports (feeds count ++ input)
      (if IsList input then error else error.movedBy count) := by
  cases reports with
  | list isList text_eq fails line_eq =>
      rw [if_pos isList]
      refine .list ((isList_feeds_append count input).mpr isList) ?_ fails line_eq
      rw [trimStart_feeds_append, text_eq]
  | line notList first =>
      obtain ⟨front, back, split, passes, stops, line_eq⟩ := first
      rw [if_neg notList]
      refine .line (mt (isList_feeds_append count input).mp notList) ?_
      rw [lines_feeds_append, reportsFirst_replicate_append]
      refine ⟨front, back, split, passes, stops, ?_⟩
      show error.line + count = 1 + count + front.length
      omega

/--
What an error reports.  With line feeds in front a dump of one module on each line is
refused with an error on a line as far below, and a list with the same error as before,
although its fault has moved: the error reports the line of the fault only as far as no
line feed stands before the list.
-/
theorem error_lines_move_unless_list
    {input : String}
    {error : DumpError}
    (fails : read input = .error error) :
    Reports input error ∧
      (∀ count : Nat,
        read (feeds count ++ input) =
          .error (if IsList input then error else error.movedBy count)) ∧
      (IsList input →
        (Position.of input
            (byteCount (leadingBlanks input) + error.fault.offset)).line =
          error.line + (leadingBlanks input).count '\n') := by
  have reports := read_eq_error_iff.mp fails
  refine ⟨reports, fun count => read_eq_error_iff.mpr (reports.feeds_append count), ?_⟩
  intro isList
  cases reports with
  | list _ text_eq _ line_eq => rw [line_behind_blanks, line_eq, text_eq]
  | line notList => exact (notList isList).elim

/-- The line and the text that a dump is refused with. -/
def refusedAt? (input : String) : Option (Nat × String) :=
  match read input with
  | .ok _ => none
  | .error error => some (error.line, error.text)

theorem exists_error_of_refusedAt?
    {input : String}
    {place : Nat × String}
    (refused : refusedAt? input = some place) :
    ∃ error, read input = .error error ∧ (error.line, error.text) = place := by
  rw [refusedAt?] at refused
  cases result : read input with
  | ok =>
      rw [result] at refused
      cases refused
  | error error =>
      rw [result] at refused
      exact ⟨error, rfl, Option.some.inj refused⟩

/-- The third line of a dump is refused, and moves down; a list is refused where it was. -/
theorem error_lines_move_unless_list_of_both_forms :
    ∃ onLine inList : DumpError,
      onLine.line = 3 ∧ onLine.text = "\x7bnot json\x7d" ∧ inList.line = 2 ∧
        read (feeds 2 ++ "\x7b\"name\": \"a\"\x7d\n \n\x7bnot json\x7d") =
          .error (onLine.movedBy 2) ∧
        read (feeds 2 ++ "\n[\n1]") = .error inList := by
  let lines := "\x7b\"name\": \"a\"\x7d\n \n\x7bnot json\x7d"
  have refusedLine : refusedAt? lines = some (3, "\x7bnot json\x7d") := by
    decide +kernel
  have refusedList : refusedAt? "\n[\n1]" = some (2, "[\n1]") := by
    decide +kernel
  obtain ⟨onLine, lineFails, isLine⟩ := exists_error_of_refusedAt? refusedLine
  obtain ⟨inList, listFails, isList⟩ := exists_error_of_refusedAt? refusedList
  obtain ⟨lineIs, textIs⟩ := Prod.mk.inj isLine
  have lineMoves := (error_lines_move_unless_list lineFails).2.1 2
  have listStays := (error_lines_move_unless_list listFails).2.1 2
  rw [if_neg (by decide +kernel)] at lineMoves
  rw [if_pos (by decide +kernel)] at listStays
  exact ⟨onLine, inList, lineIs, textIs, (Prod.mk.inj isList).1, lineMoves, listStays⟩

/-- A line feed in front of a list does not move the line that the error reports. -/
theorem error_line_of_list_stays :
    ¬ ∀ (input : String) (error : DumpError) (count : Nat), read input = .error error →
      ∃ moved, read (feeds count ++ input) = .error moved ∧
        moved.line = error.line + count := by
  intro always
  have refused : refusedAt? "[1]" = some (1, "[1]") := by
    decide +kernel
  have refusedBelow : refusedAt? (feeds 1 ++ "[1]") = some (1, "[1]") := by
    decide +kernel
  obtain ⟨error, fails, isPlace⟩ := exists_error_of_refusedAt? refused
  obtain ⟨below, belowFails, isPlaceBelow⟩ := exists_error_of_refusedAt? refusedBelow
  obtain ⟨moved, movedFails, movedIs⟩ := always "[1]" error 1 fails
  obtain rfl := Except.error.inj (belowFails.symm.trans movedFails)
  rw [(Prod.mk.inj isPlace).1, (Prod.mk.inj isPlaceBelow).1] at movedIs
  cases movedIs

end ApiTree.Dump
