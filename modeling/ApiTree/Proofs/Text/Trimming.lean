import ApiTree.Text.Blank
import Mathlib.Data.List.DropRight

namespace ApiTree.Text

/-!
# Trimming

Trimming takes white space from both ends of a text and nothing else, and what was
trimmed once is not trimmed any further.  Where a given ending is dropped, it was there.
-/

/-- The front is trimmed first and the end of what is left after it. -/
theorem trimChars_eq (chars : List Char) :
    trimChars chars = (chars.dropWhile isBlank).rdropWhile isBlank :=
  rfl

/-- Every character that is left by trimming was there. -/
theorem trimChars_subset (chars : List Char) : trimChars chars ⊆ chars := by
  rw [trimChars_eq]
  exact List.Subset.trans (List.rdropWhile_prefix isBlank _).subset
    (List.dropWhile_suffix isBlank).subset

/-- Trimming leaves every character that is no white space. -/
theorem mem_trimChars
    {char : Char}
    {chars : List Char}
    (member : char ∈ chars)
    (isInk : isBlank char = false) :
    char ∈ trimChars chars := by
  have notBlank : ¬ isBlank char = true := by
    rw [isInk]
    exact Bool.false_ne_true
  have afterFront : char ∈ chars.dropWhile isBlank := by
    rw [← List.takeWhile_append_dropWhile (p := isBlank) (l := chars)] at member
    rcases List.mem_append.mp member with inFront | inRest
    · exact (notBlank (List.mem_takeWhile_imp inFront)).elim
    · exact inRest
  rw [← List.rdropWhile_append_rtakeWhile (p := isBlank)
    (l := chars.dropWhile isBlank)] at afterFront
  rcases List.mem_append.mp afterFront with isLeft | atEnd
  · exact isLeft
  · exact (notBlank (List.mem_rtakeWhile_imp atEnd)).elim

/-- Nothing more is trimmed from a trimmed text. -/
theorem trimChars_trimChars (chars : List Char) :
    trimChars (trimChars chars) = trimChars chars := by
  have frontKept : (trimChars chars).dropWhile isBlank = trimChars chars := by
    rw [List.dropWhile_eq_self_iff]
    intro notEmpty
    have isStart := List.rdropWhile_prefix isBlank (chars.dropWhile isBlank)
    rw [← trimChars_eq] at isStart
    rw [isStart.getElem notEmpty]
    exact List.dropWhile_get_zero_not isBlank chars
      (Nat.lt_of_lt_of_le notEmpty isStart.length_le)
  rw [trimChars_eq (trimChars chars), frontKept, trimChars_eq]
  exact List.rdropWhile_idempotent isBlank _

/-- A given ending is dropped from the lists that end with it. -/
theorem dropEnd?_eq_some_iff
    {ending chars front : List Char} :
    dropEnd? ending chars = some front ↔ chars = front ++ ending := by
  rw [dropEnd?]
  constructor
  · intro isFront
    split at isFront
    · rename_i isEnding
      obtain ⟨start, rfl⟩ := List.isSuffixOf_iff_suffix.mp isEnding
      simpa using isFront
    · cases isFront
  · rintro rfl
    rw [if_pos (List.isSuffixOf_iff_suffix.mpr (List.suffix_append front ending))]
    simp

end ApiTree.Text
