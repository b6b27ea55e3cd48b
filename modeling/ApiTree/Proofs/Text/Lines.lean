import ApiTree.Text.Blank
import Mathlib.Data.List.Forall2
import Mathlib.Data.List.TakeWhile

namespace ApiTree.Text

/-!
# Lines of a text

The first character of a text that is no white space is the first one of its lines, and
the lines of texts that were joined with line feeds are those texts, except that a
carriage return at an end may be lost.
-/

/-! ## First characters -/

/-- The first character that is not white space. -/
def firstInk? (chars : List Char) : Option Char :=
  chars.find? fun char => !isBlank char

theorem head?_dropBlanks (chars : List Char) :
    (dropBlanks chars).head? = firstInk? chars :=
  (List.find?_not_eq_head?_dropWhile isBlank chars).symm

theorem firstInk?_append (front chars : List Char) :
    firstInk? (front ++ chars) = (firstInk? front).or (firstInk? chars) :=
  List.find?_append

theorem findSome?_firstInk?_cons
    (piece : List Char)
    (pieces : List (List Char)) :
    (piece :: pieces).findSome? firstInk? =
      (firstInk? piece).or (pieces.findSome? firstInk?) := by
  rw [List.findSome?_cons]
  cases firstInk? piece <;> rfl

theorem isAllBlank_eq (text : String) :
    isAllBlank text = (firstInk? text.toList).isNone := by
  rw [isAllBlank, firstInk?]
  induction text.toList with
  | nil => rfl
  | cons char chars inductionHypothesis =>
      cases blank : isBlank char <;> simp [blank, inductionHypothesis]

theorem firstInk?_dropReturn (line : List Char) :
    firstInk? (dropReturn line) = firstInk? line := by
  rw [dropReturn]
  split
  · rename_i endsWithReturn
    obtain ⟨front, rfl⟩ := List.getLast?_eq_some_iff.mp endsWithReturn
    have noInk : firstInk? ['\r'] = none := by decide
    rw [List.dropLast_concat, firstInk?_append, noInk, Option.or_none]
  · rfl

/-! ## Pieces -/

theorem splitChars_eq_splitOnP
    (isBreak : Char → Bool)
    (chars : List Char) :
    splitChars isBreak chars = chars.splitOnP isBreak := by
  induction chars with
  | nil => rfl
  | cons char chars inductionHypothesis =>
      rw [splitChars, inductionHypothesis, List.splitOnP_cons_eq_if_modifyHead]
      cases split : chars.splitOnP isBreak with
      | nil => exact (List.splitOnP_ne_nil isBreak chars split).elim
      | cons piece pieces => rfl

/-- The first ink of the pieces of a text is that of the text. -/
theorem firstInk?_splitChars (chars : List Char) :
    (splitChars (· == '\n') chars).findSome? firstInk? = firstInk? chars := by
  rw [splitChars_eq_splitOnP]
  induction chars with
  | nil => rfl
  | cons char chars inductionHypothesis =>
      rw [List.splitOnP_cons_eq_if_modifyHead]
      split
      · rename_i isFeed
        obtain rfl := beq_iff_eq.mp isFeed
        exact inductionHypothesis
      · cases split : chars.splitOnP (· == '\n') with
        | nil => exact (List.splitOnP_ne_nil _ chars split).elim
        | cons piece pieces =>
            rw [split, findSome?_firstInk?_cons] at inductionHypothesis
            rw [List.modifyHead_cons, findSome?_firstInk?_cons, ← List.singleton_append,
              firstInk?_append, Option.or_assoc, inductionHypothesis, ← firstInk?_append,
              List.singleton_append]

/-- No piece of a text holds a character at which the text is split. -/
theorem isBreak_of_mem_splitChars
    {isBreak : Char → Bool}
    {chars piece : List Char}
    (isPiece : piece ∈ splitChars isBreak chars) :
    ∀ char ∈ piece, isBreak char = false := by
  induction chars generalizing piece with
  | nil =>
      obtain rfl := List.mem_singleton.mp isPiece
      exact List.forall_mem_nil _
  | cons first rest inductionHypothesis =>
      rw [splitChars] at isPiece
      split at isPiece
      · rcases List.mem_cons.mp isPiece with rfl | inRest
        · exact List.forall_mem_nil _
        · exact inductionHypothesis inRest
      · rename_i notBreak
        have firstIsNot : isBreak first = false := by simpa using notBreak
        split at isPiece
        · obtain rfl := List.mem_singleton.mp isPiece
          exact List.forall_mem_singleton.mpr firstIsNot
        · rename_i next others split
          rcases List.mem_cons.mp isPiece with rfl | inOthers
          · exact List.forall_mem_cons.mpr
              ⟨firstIsNot, inductionHypothesis (split ▸ List.mem_cons_self)⟩
          · exact inductionHypothesis (split ▸ List.mem_cons_of_mem _ inOthers)

/-- Texts without line feeds are the pieces of what they are joined to. -/
theorem splitChars_intercalate
    {pieces : List (List Char)}
    (notEmpty : pieces ≠ [])
    (noFeed : ∀ piece ∈ pieces, '\n' ∉ piece) :
    splitChars (· == '\n') (List.intercalate ['\n'] pieces) = pieces := by
  rw [splitChars_eq_splitOnP]
  exact List.splitOn_intercalate '\n' noFeed notEmpty

/-! ## Lines -/

/-- The last piece of a text is a line if it is not empty. -/
theorem lineChars_of_split
    {chars last : List Char}
    {front : List (List Char)}
    (split : splitChars (· == '\n') chars = front ++ [last]) :
    lineChars chars =
      front.map dropReturn ++ if last = [] then [] else [last] := by
  simp only [lineChars, split, List.dropLast_concat, List.getLast?_concat]
  cases last with
  | nil => exact (List.append_nil _).symm
  | cons => rfl

/-- No line of a text holds a line feed. -/
theorem not_mem_of_mem_lineChars
    {chars line : List Char}
    (isLine : line ∈ lineChars chars) :
    '\n' ∉ line := by
  have noFeed {piece : List Char} (isPiece : piece ∈ splitChars (· == '\n') chars) :
      '\n' ∉ piece :=
    fun isFeed => by simpa using isBreak_of_mem_splitChars isPiece _ isFeed
  rcases List.eq_nil_or_concat (splitChars (· == '\n') chars) with
    noPieces | ⟨front, last, split⟩
  · rw [splitChars_eq_splitOnP] at noPieces
    exact (List.splitOnP_ne_nil _ chars noPieces).elim
  · rw [List.concat_eq_append] at split
    rw [split] at noFeed
    rw [lineChars_of_split split] at isLine
    rcases List.mem_append.mp isLine with isEnded | isLast
    · obtain ⟨piece, isPiece, rfl⟩ := List.mem_map.mp isEnded
      intro isFeed
      refine noFeed (List.mem_append_left _ isPiece) ?_
      rw [dropReturn] at isFeed
      split at isFeed
      · exact List.dropLast_subset _ isFeed
      · exact isFeed
    · split at isLast
      · cases isLast
      · obtain rfl := List.mem_singleton.mp isLast
        exact noFeed (by simp)

/-- A text without line feeds is one line, unless it is empty. -/
theorem lineChars_of_not_mem
    {chars : List Char}
    (noFeed : '\n' ∉ chars) :
    lineChars chars = if chars = [] then [] else [chars] := by
  have alone : splitChars (· == '\n') chars = [] ++ [chars] := by
    have joined : splitChars (· == '\n') (List.intercalate ['\n'] [chars]) = [chars] :=
      splitChars_intercalate (by simp) (by simpa using noFeed)
    rwa [List.intercalate_singleton] at joined
  exact lineChars_of_split alone

theorem firstInk?_lineChars (chars : List Char) :
    (lineChars chars).findSome? firstInk? = firstInk? chars := by
  rw [← firstInk?_splitChars]
  have front_eq (front : List (List Char)) :
      (front.map dropReturn).findSome? firstInk? = front.findSome? firstInk? := by
    rw [List.findSome?_map, Function.comp_def]
    simp only [firstInk?_dropReturn]
  rcases List.eq_nil_or_concat (splitChars (· == '\n') chars) with
    noPieces | ⟨front, last, split⟩
  · rw [splitChars_eq_splitOnP] at noPieces
    exact (List.splitOnP_ne_nil _ chars noPieces).elim
  · rw [List.concat_eq_append] at split
    rw [lineChars_of_split split, split, List.findSome?_append, List.findSome?_append,
      front_eq]
    split
    · rename_i isEmpty
      rw [isEmpty]
      rfl
    · rfl

/-- That a line is the text it was written from, or lost a carriage return. -/
def IsLineOf (text line : List Char) : Prop :=
  line = text ∨ text = line ++ ['\r']

theorem isLineOf_dropReturn (text : List Char) :
    IsLineOf text (dropReturn text) := by
  rw [dropReturn]
  split
  · rename_i endsWithReturn
    obtain ⟨front, rfl⟩ := List.getLast?_eq_some_iff.mp endsWithReturn
    exact .inr (by rw [List.dropLast_concat])
  · exact .inl rfl

/-- Lines that are not blank come from texts that are not blank, one by one. -/
theorem inked_map_dropReturn (texts : List (List Char)) :
    List.Forall₂ IsLineOf (texts.filter fun text => (firstInk? text).isSome)
      ((texts.map dropReturn).filter fun line => (firstInk? line).isSome) := by
  induction texts with
  | nil => exact .nil
  | cons text texts inductionHypothesis =>
      rw [List.map_cons, List.filter_cons, List.filter_cons, firstInk?_dropReturn]
      split
      · exact .cons (isLineOf_dropReturn text) inductionHypothesis
      · exact inductionHypothesis

/-- The lines of joined texts are those texts, but for blank ones. -/
theorem inked_lineChars_intercalate
    {texts : List (List Char)}
    (noFeed : ∀ text ∈ texts, '\n' ∉ text) :
    List.Forall₂ IsLineOf (texts.filter fun text => (firstInk? text).isSome)
      ((lineChars (List.intercalate ['\n'] texts)).filter
        fun line => (firstInk? line).isSome) := by
  rcases List.eq_nil_or_concat texts with rfl | ⟨front, last, isConcat⟩
  · exact .nil
  · rw [List.concat_eq_append] at isConcat
    subst isConcat
    rw [lineChars_of_split (splitChars_intercalate (by simp) noFeed), List.filter_append,
      List.filter_append]
    refine List.rel_append (inked_map_dropReturn front) ?_
    split
    · rename_i isEmpty
      subst isEmpty
      exact .nil
    · exact List.forall₂_same.mpr fun _ _ => .inl rfl

end ApiTree.Text
