import ApiTree.Hint.Quote
import ApiTree.Proofs.Text.Lines
import ApiTree.Proofs.Text.Trimming
import ApiTree.Resolve.Expression

namespace ApiTree.Resolve

open ApiTree.Text (isBlank lineChars lineChars_of_not_mem mem_trimChars
  not_mem_of_mem_lineChars trimChars trimChars_subset trimChars_trimChars)

/-!
# Comments in type expressions

A comment starts at a hash and goes on to the end of its line.  Inside a string literal
that is closed a hash is a character like any other, so whether one starts a comment is
known only when the text is read from its start.  Cleaning does not read the text: it
cuts each line at its first hash.  It removes exactly the comments, line breaks and outer
white space if and only if no literal holds a hash.
-/

/-- What a character of an expression stands in. -/
inductive Standing where
  | plain
  /-- A string literal that is closed, the quotes included. -/
  | literal
  | comment
  deriving DecidableEq

/-- What is being read. -/
inductive Reading where
  /-- Text, of which so many characters still stand in a literal. -/
  | text (literalLeft : Nat)
  | comment

/-- Whether a comment is being read. -/
def Reading.isComment : Reading → Bool
  | .text _ => false
  | .comment => true

/-- How many characters a literal goes on for behind its first quote, if it is closed. -/
def literalLength?
    (char : Char)
    (rest : List Char) :
    Option Nat :=
  if Hint.isQuoteMark char then
    (Hint.stringBody char rest).map fun found => rest.length - found.2.length
  else
    none

/-- The characters of a text whose lines end in line feeds, with what they stand in. -/
def standings : Reading → List Char → List (Char × Standing)
  | _, [] => []
  | .text (left + 1), char :: rest => (char, .literal) :: standings (.text left) rest
  | .text 0, char :: rest =>
      if char = '#' then
        (char, .comment) :: standings .comment rest
      else
        match literalLength? char rest with
        | some length => (char, .literal) :: standings (.text length) rest
        | none => (char, .plain) :: standings (.text 0) rest
  | .comment, char :: rest =>
      if char = '\n' then
        (char, .plain) :: standings (.text 0) rest
      else
        (char, .comment) :: standings .comment rest

/-- The characters of an expression, line breaks as line feeds, with what they stand in. -/
def readExpression (raw : String) : List (Char × Standing) :=
  standings (.text 0) (List.intercalate ['\n'] (lineChars raw.toList))

/-- The characters that are neither in a comment nor break a line. -/
def keptOf (read : List (Char × Standing)) : List Char :=
  (read.filter fun one => one.2 != .comment && one.1 != '\n').map Prod.fst

/-- A type expression without its comments, line breaks and outer white space. -/
def withoutComments (raw : String) : String :=
  String.ofList (trimChars (keptOf (readExpression raw)))

theorem keptOf_cons_comment
    (char : Char)
    (read : List (Char × Standing)) :
    keptOf ((char, .comment) :: read) = keptOf read :=
  rfl

theorem keptOf_cons_of_ne
    {standing : Standing}
    (notComment : standing ≠ .comment)
    (char : Char)
    (read : List (Char × Standing)) :
    keptOf ((char, standing) :: read) =
      if char = '\n' then keptOf read else char :: keptOf read := by
  cases standing with
  | comment => exact (notComment rfl).elim
  | plain | literal =>
      by_cases isFeed : char = '\n' <;> simp [keptOf, isFeed]

/-! ## Cutting lines -/

/-- The characters of a text with nothing kept of a line from its first hash on. -/
def cutLines : Bool → List Char → List Char
  | _, [] => []
  | isCut, char :: rest =>
      if char = '\n' then cutLines false rest
      else if isCut || char == '#' then cutLines true rest
      else char :: cutLines false rest

/-- A line is kept up to its first hash, whatever follows it. -/
theorem cutLines_append
    {line rest : List Char}
    (noFeed : '\n' ∉ line)
    (ends : cutLines true rest = cutLines false rest) :
    cutLines true (line ++ rest) = cutLines false rest ∧
      cutLines false (line ++ rest) =
        line.takeWhile (· != '#') ++ cutLines false rest := by
  induction line with
  | nil => exact ⟨ends, rfl⟩
  | cons char line inductionHypothesis =>
      obtain ⟨notFeed, othersNot⟩ := List.ne_and_not_mem_of_not_mem_cons noFeed
      obtain ⟨whenCut, whenNot⟩ := inductionHypothesis othersNot
      refine ⟨?_, ?_⟩
      · simpa [cutLines, Ne.symm notFeed] using whenCut
      · by_cases isHash : char = '#'
        · simpa [cutLines, isHash] using whenCut
        · simpa [cutLines, isHash, Ne.symm notFeed] using whenNot

/-- A text that is one line is kept up to its first hash. -/
theorem cutLines_line
    {line : List Char}
    (noFeed : '\n' ∉ line) :
    cutLines false line = line.takeWhile (· != '#') := by
  have cut := (cutLines_append noFeed (show cutLines true [] = cutLines false [] from rfl)).2
  simpa [cutLines] using cut

/-- Lines that are joined are cut one by one. -/
theorem cutLines_intercalate
    {lines : List (List Char)}
    (noFeed : ∀ line ∈ lines, '\n' ∉ line) :
    cutLines false (List.intercalate ['\n'] lines) =
      (lines.map fun line => line.takeWhile (· != '#')).flatten := by
  induction lines with
  | nil => rfl
  | cons line lines inductionHypothesis =>
      obtain ⟨lineHasNone, othersHaveNone⟩ := List.forall_mem_cons.mp noFeed
      cases lines with
      | nil => simp [List.intercalate_singleton, cutLines_line lineHasNone]
      | cons next others =>
          rw [List.intercalate_cons_cons, List.append_assoc,
            (cutLines_append lineHasNone (by rfl)).2, List.map_cons, List.flatten_cons,
            ← inductionHypothesis othersHaveNone]
          rfl

/-- What cleaning keeps of an expression before it is trimmed. -/
theorem cleanExpression_eq (raw : String) :
    cleanExpression raw =
      String.ofList
        (trimChars (cutLines false (List.intercalate ['\n'] (lineChars raw.toList)))) := by
  rw [cutLines_intercalate fun line isLine => not_mem_of_mem_lineChars isLine]
  rfl

/-! ## Hashes in literals -/

/-- Where no literal holds a hash, cutting lines removes the comments. -/
theorem keptOf_standings
    {reading : Reading}
    {chars : List Char}
    (noHash : ('#', Standing.literal) ∉ standings reading chars) :
    keptOf (standings reading chars) = cutLines reading.isComment chars := by
  -- What is no comment is kept by both, but for line feeds.
  have kept {char : Char} {rest : List Char} {standing : Standing}
      {read : List (Char × Standing)}
      (notComment : standing ≠ .comment)
      (notHash : char ≠ '#')
      (restKept : keptOf read = cutLines false rest) :
      keptOf ((char, standing) :: read) = cutLines false (char :: rest) := by
    rw [keptOf_cons_of_ne notComment, restKept]
    simp [cutLines, notHash]
  fun_induction standings reading chars with
  | case1 reading => simp [keptOf, cutLines]
  | case2 left char rest inductionHypothesis =>
      obtain ⟨differs, others⟩ := List.ne_and_not_mem_of_not_mem_cons noHash
      have notHash : char ≠ '#' := fun isHash => differs (by rw [isHash])
      exact kept (by decide) notHash (inductionHypothesis others)
  | case3 rest inductionHypothesis =>
      exact inductionHypothesis (List.not_mem_of_not_mem_cons noHash)
  | case4 char rest notHash length isLiteral inductionHypothesis =>
      exact kept (by decide) notHash
        (inductionHypothesis (List.not_mem_of_not_mem_cons noHash))
  | case5 char rest notHash noLiteral inductionHypothesis =>
      exact kept (by decide) notHash
        (inductionHypothesis (List.not_mem_of_not_mem_cons noHash))
  | case6 rest inductionHypothesis =>
      exact inductionHypothesis (List.not_mem_of_not_mem_cons noHash)
  | case7 char rest notFeed inductionHypothesis =>
      rw [keptOf_cons_comment,
        inductionHypothesis (List.not_mem_of_not_mem_cons noHash)]
      simp [cutLines, notFeed, Reading.isComment]

/-- A hash in a literal is no comment, so it is kept. -/
theorem mem_keptOf_of_literal
    {read : List (Char × Standing)}
    (isHeld : ('#', Standing.literal) ∈ read) :
    '#' ∈ keptOf read :=
  List.mem_map.mpr ⟨_, List.mem_filter.mpr ⟨isHeld, by decide⟩, rfl⟩

/-- Nothing that is cut keeps a hash or a line feed. -/
theorem not_mem_cutLines
    (isCut : Bool)
    (chars : List Char) :
    '#' ∉ cutLines isCut chars ∧ '\n' ∉ cutLines isCut chars := by
  fun_induction cutLines isCut chars with
  | case1 => simp
  | case2 _ _ inductionHypothesis => exact inductionHypothesis
  | case3 _ _ _ _ _ inductionHypothesis => exact inductionHypothesis
  | case4 isCut char rest notFeed notCut inductionHypothesis =>
      have notHash : '#' ≠ char := by
        rintro rfl
        simp at notCut
      simpa [Ne.symm notFeed, notHash] using inductionHypothesis

/-- What has neither a hash nor a line feed is only trimmed. -/
theorem cutLines_eq_self
    {chars : List Char}
    (noHash : '#' ∉ chars)
    (noFeed : '\n' ∉ chars) :
    cutLines false chars = chars := by
  rw [cutLines_line noFeed, List.takeWhile_eq_self_iff]
  intro char member
  rw [bne_iff_ne]
  rintro rfl
  exact noHash member

/--
Cleaning an expression removes its comments, line breaks and outer white space and
nothing else exactly if none of its literals holds a hash.  In any case no line feed and
no hash is left, so that cleaning again changes nothing.
-/
theorem cleaning_removes_comments_iff (raw : String) :
    (cleanExpression raw = withoutComments raw ↔
        ('#', Standing.literal) ∉ readExpression raw) ∧
      '\n' ∉ (cleanExpression raw).toList ∧
      '#' ∉ (cleanExpression raw).toList ∧
      cleanExpression (cleanExpression raw) = cleanExpression raw := by
  have cleaned := cleanExpression_eq raw
  obtain ⟨noHash, noFeed⟩ :=
    not_mem_cutLines false (List.intercalate ['\n'] (lineChars raw.toList))
  have keptAlike (noneHeld : ('#', Standing.literal) ∉ readExpression raw) :
      keptOf (readExpression raw) =
        cutLines false (List.intercalate ['\n'] (lineChars raw.toList)) :=
    keptOf_standings noneHeld
  generalize cutLines false (List.intercalate ['\n'] (lineChars raw.toList)) = kept
    at cleaned noHash noFeed keptAlike
  have hashFree : '#' ∉ trimChars kept := fun isHash =>
    noHash (trimChars_subset kept isHash)
  have feedFree : '\n' ∉ trimChars kept := fun isFeed =>
    noFeed (trimChars_subset kept isFeed)
  rw [cleaned, String.toList_ofList]
  refine ⟨⟨?_, ?_⟩, feedFree, hashFree, ?_⟩
  · intro same isHeld
    have isKept := mem_trimChars (mem_keptOf_of_literal isHeld) (by decide)
    rw [← String.ofList_inj.mp same] at isKept
    exact hashFree isKept
  · intro noneHeld
    rw [withoutComments, keptAlike noneHeld]
  · rw [cleanExpression_eq, String.toList_ofList, lineChars_of_not_mem feedFree]
    split
    · rename_i isEmpty
      rw [isEmpty]
      rfl
    · rw [List.intercalate_singleton, cutLines_eq_self hashFree feedFree,
        trimChars_trimChars]

/-- The literal type of a colour is cut off in the middle of its literal. -/
theorem hash_in_literal_is_cut :
    cleanExpression "Literal['#fff']" = "Literal['" ∧
      withoutComments "Literal['#fff']" = "Literal['#fff']" := by
  decide +kernel

end ApiTree.Resolve
