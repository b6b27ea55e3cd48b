import ApiTree.Dump.Object
import Mathlib.Tactic.ByContra

namespace ApiTree.Dump

open ApiTree.Decl (Decorator Info groupDecorator isQuote literalChars literalOf?)

/-!
# Titles in the arguments of decorators

The arguments of a decorator are a text in parentheses, in which string literals stand
between pieces that hold no quotes.  Literals are taken as they are written, so an escape
in one stays.  A title is cut out of the text from the first quote up to the last quote of
the same kind.  This is the content of the first literal exactly if its quote stands once
on either side of it and no later literal is written with the same quote; any other title
holds a quote itself and is the content of no literal.
-/

/-! ## Written arguments -/

/-- That a text holds no quotes. -/
def Unquoted (chars : List Char) : Prop :=
  ∀ char ∈ chars, isQuote char = false

instance (chars : List Char) : Decidable (Unquoted chars) :=
  decidable_of_iff (chars.all (!isQuote ·) = true) (by simp [Unquoted])

namespace Unquoted

theorem not_mem
    {chars : List Char}
    (unquoted : Unquoted chars)
    {quote : Char}
    (quoteIs : isQuote quote = true) :
    quote ∉ chars :=
  fun isMember => Bool.false_ne_true ((unquoted quote isMember).symm.trans quoteIs)

theorem append
    {front back : List Char}
    (frontUnquoted : Unquoted front)
    (backUnquoted : Unquoted back) :
    Unquoted (front ++ back) :=
  fun char isMember =>
    (List.mem_append.mp isMember).elim (frontUnquoted char) (backUnquoted char)

end Unquoted

/-- A string literal whose content holds no quotes. -/
structure StringLiteral where
  quote : Char
  /-- Whether the quote is written three times on either side. -/
  isTripled : Bool
  content : List Char
  quote_isQuote : isQuote quote = true
  content_unquoted : Unquoted content

namespace StringLiteral

/-- The quotes on either side of the content. -/
def mark (literal : StringLiteral) : List Char :=
  if literal.isTripled then
    [literal.quote, literal.quote, literal.quote]
  else
    [literal.quote]

/-- A literal as it is written. -/
def chars (literal : StringLiteral) : List Char :=
  literal.mark ++ literal.content ++ literal.mark

/-- Only its own quote stands in a literal. -/
theorem mem_chars_iff
    (literal : StringLiteral)
    {quote : Char}
    (quoteIs : isQuote quote = true) :
    quote ∈ literal.chars ↔ literal.quote = quote := by
  have notInside := literal.content_unquoted.not_mem quoteIs
  cases tripled : literal.isTripled <;>
    simp [chars, mark, tripled, notInside, eq_comm]

theorem chars_append_of_single
    {literal : StringLiteral}
    (single : literal.isTripled = false)
    (back : List Char) :
    literal.chars ++ back =
      literal.quote :: (literal.content ++ literal.quote :: back) := by
  simp [chars, mark, single]

theorem chars_append_of_tripled
    {literal : StringLiteral}
    (tripled : literal.isTripled = true)
    (back : List Char) :
    literal.chars ++ back =
      literal.quote :: ([] ++ literal.quote ::
        (literal.quote :: (literal.content ++ literal.mark ++ back))) := by
  simp [chars, mark, tripled]

end StringLiteral

/-- A piece of an argument. -/
inductive ArgumentPiece where
  | plain (chars : List Char) (unquoted : Unquoted chars)
  | quoted (literal : StringLiteral)

namespace ArgumentPiece

/-- A piece as it is written. -/
def chars : ArgumentPiece → List Char
  | .plain chars _ => chars
  | .quoted literal => literal.chars

/-- The literal that a piece is. -/
def literal? : ArgumentPiece → Option StringLiteral
  | .plain _ _ => none
  | .quoted literal => some literal

end ArgumentPiece

/-- Arguments, each in pieces, in parentheses and with commas between them. -/
def argumentsText (arguments : List (List ArgumentPiece)) : String :=
  String.ofList <|
    '(' :: (List.intercalate [','] (arguments.map (·.flatMap ArgumentPiece.chars)) ++ [')'])

/-- The literals of arguments in the order in which they are written. -/
def literalsOf (arguments : List (List ArgumentPiece)) : List StringLiteral :=
  arguments.flatMap (·.filterMap ArgumentPiece.literal?)

/-! ## Texts with literals -/

/-- That literals stand in a text one after the other, and no quotes around them. -/
inductive Quotes : List Char → List StringLiteral → Prop where
  | none
      {chars : List Char}
      (unquoted : Unquoted chars) :
      Quotes chars []
  | literal
      {front back : List Char}
      {literal : StringLiteral}
      {later : List StringLiteral}
      (unquoted : Unquoted front)
      (rest : Quotes back later) :
      Quotes (front ++ (literal.chars ++ back)) (literal :: later)

namespace Quotes

theorem unquoted_append
    {front back : List Char}
    {literals : List StringLiteral}
    (unquoted : Unquoted front)
    (quotes : Quotes back literals) :
    Quotes (front ++ back) literals := by
  cases quotes with
  | none backUnquoted => exact .none (unquoted.append backUnquoted)
  | literal nextUnquoted rest =>
      rw [← List.append_assoc]
      exact .literal (unquoted.append nextUnquoted) rest

/-- The literals of a text that is put together are those of its parts. -/
theorem append
    {front back : List Char}
    {before after : List StringLiteral}
    (frontQuotes : Quotes front before)
    (backQuotes : Quotes back after) :
    Quotes (front ++ back) (before ++ after) := by
  induction frontQuotes with
  | none unquoted => exact backQuotes.unquoted_append unquoted
  | literal unquoted _ inductionHypothesis =>
      rw [List.append_assoc, List.append_assoc]
      exact .literal unquoted inductionHypothesis

/-- A quote stands in a text exactly if one of its literals is written with it. -/
theorem mem_iff
    {chars : List Char}
    {literals : List StringLiteral}
    (quotes : Quotes chars literals)
    {quote : Char}
    (quoteIs : isQuote quote = true) :
    quote ∈ chars ↔ ∃ literal ∈ literals, literal.quote = quote := by
  induction quotes with
  | none unquoted => simp [unquoted.not_mem quoteIs]
  | literal unquoted _ inductionHypothesis =>
      simp [unquoted.not_mem quoteIs, StringLiteral.mem_chars_iff _ quoteIs, inductionHypothesis]

end Quotes

theorem quotes_piece (piece : ArgumentPiece) :
    Quotes piece.chars piece.literal?.toList := by
  cases piece with
  | plain chars unquoted => exact .none unquoted
  | quoted literal =>
      have quotes : Quotes ([] ++ (literal.chars ++ [])) [literal] :=
        .literal (List.forall_mem_nil _) (.none (List.forall_mem_nil _))
      rwa [List.nil_append, List.append_nil] at quotes

theorem quotes_argument (argument : List ArgumentPiece) :
    Quotes (argument.flatMap ArgumentPiece.chars)
      (argument.filterMap ArgumentPiece.literal?) := by
  induction argument with
  | nil => exact .none (List.forall_mem_nil _)
  | cons piece pieces inductionHypothesis =>
      have quotes := (quotes_piece piece).append inductionHypothesis
      cases literal : piece.literal? <;>
        simpa [literal] using quotes

theorem quotes_intercalate (arguments : List (List ArgumentPiece)) :
    Quotes
      (List.intercalate [','] (arguments.map (·.flatMap ArgumentPiece.chars)))
      (literalsOf arguments) := by
  have commaUnquoted : Unquoted [','] := by
    simp [Unquoted, isQuote]
  induction arguments with
  | nil => exact .none (List.forall_mem_nil _)
  | cons argument others inductionHypothesis =>
      have first := quotes_argument argument
      cases others with
      | nil => simpa [literalsOf] using first
      | cons next others =>
          rw [List.map_cons, List.map_cons, List.intercalate_cons_cons,
            List.append_assoc]
          exact first.append (inductionHypothesis.unquoted_append commaUnquoted)

/-- The literals of written arguments are the literals of their text. -/
theorem quotes_argumentsText (arguments : List (List ArgumentPiece)) :
    Quotes (argumentsText arguments).toList (literalsOf arguments) := by
  have opens : Unquoted ['('] := by
    simp [Unquoted, isQuote]
  have closes : Unquoted [')'] := by
    simp [Unquoted, isQuote]
  have quotes :=
    ((quotes_intercalate arguments).append (.none closes)).unquoted_append opens
  simpa [argumentsText] using quotes

/-! ## Cutting out a title -/

theorem literalChars_unquoted_append
    {front : List Char}
    (unquoted : Unquoted front)
    (back : List Char) :
    literalChars (front ++ back) = literalChars back := by
  induction front with
  | nil => rfl
  | cons char front inductionHypothesis =>
      obtain ⟨noQuote, othersUnquoted⟩ := List.forall_mem_cons.mp unquoted
      rw [List.cons_append, literalChars, noQuote]
      exact inductionHypothesis othersUnquoted

/-- What is cut out ends before the last quote that is like the first one. -/
theorem literalChars_up_to_last
    {quote : Char}
    (quoteIs : isQuote quote = true)
    (inside : List Char)
    {after : List Char}
    (isLast : quote ∉ after) :
    literalChars (quote :: (inside ++ quote :: after)) =
      if inside.isEmpty then none else some inside := by
  have passes : ∀ char ∈ after.reverse, (char != quote) = true := by
    intro char isMember
    rw [bne_iff_ne]
    rintro rfl
    exact isLast (List.mem_reverse.mp isMember)
  have reversed : (inside ++ quote :: after).reverse =
      after.reverse ++ quote :: inside.reverse := by
    simp
  rw [literalChars, if_pos quoteIs, reversed, List.dropWhile_append_of_pos passes,
    List.dropWhile_cons_of_neg (by simp)]
  simp

theorem exists_split_at_last
    {quote : Char}
    {chars : List Char}
    (isMember : quote ∈ chars) :
    ∃ front back, chars = front ++ quote :: back ∧ quote ∉ back := by
  obtain ⟨behind, before, reversed, isLast⟩ :=
    List.eq_append_cons_of_mem (List.mem_reverse.mpr isMember)
  refine ⟨before.reverse, behind.reverse, ?_, by simpa using isLast⟩
  rw [← List.reverse_reverse chars, reversed]
  simp

/-- What is cut out goes on over each quote that another like it follows. -/
theorem literalChars_over_quote
    {quote : Char}
    (quoteIs : isQuote quote = true)
    (inside : List Char)
    {after : List Char}
    (goesOn : quote ∈ after) :
    ∃ title, literalChars (quote :: (inside ++ quote :: after)) = some title ∧
      quote ∈ title := by
  obtain ⟨between, behind, rfl, isLast⟩ := exists_split_at_last goesOn
  have cut := literalChars_up_to_last quoteIs (inside ++ quote :: between) isLast
  exact ⟨inside ++ quote :: between, by simpa using cut, by simp⟩

/--
The first literal has its quote to itself: the quote stands once on either side of it, and
no later literal is written with it.
-/
structure HasOwnQuote
    (first : StringLiteral)
    (later : List StringLiteral) : Prop where
  single : first.isTripled = false
  othersDiffer : ∀ literal ∈ later, literal.quote ≠ first.quote

theorem literalChars_of_hasOwnQuote
    {chars : List Char}
    {first : StringLiteral}
    {later : List StringLiteral}
    (quotes : Quotes chars (first :: later))
    (ownQuote : HasOwnQuote first later) :
    literalChars chars =
      if first.content.isEmpty then none else some first.content := by
  cases quotes with
  | @literal front back _ _ unquoted rest =>
      have isLast : first.quote ∉ back := by
        rw [rest.mem_iff first.quote_isQuote]
        rintro ⟨literal, isLater, sameQuote⟩
        exact ownQuote.othersDiffer literal isLater sameQuote
      rw [literalChars_unquoted_append unquoted,
        StringLiteral.chars_append_of_single ownQuote.single,
        literalChars_up_to_last first.quote_isQuote first.content isLast]

theorem literalChars_of_not_hasOwnQuote
    {chars : List Char}
    {first : StringLiteral}
    {later : List StringLiteral}
    (quotes : Quotes chars (first :: later))
    (shared : ¬ HasOwnQuote first later) :
    ∃ title, literalChars chars = some title ∧ first.quote ∈ title := by
  cases quotes with
  | @literal front back _ _ unquoted rest =>
      rw [literalChars_unquoted_append unquoted]
      cases tripled : first.isTripled with
      | true =>
          -- The second quote of the mark is followed by the quotes that close the literal.
          rw [StringLiteral.chars_append_of_tripled tripled]
          exact literalChars_over_quote first.quote_isQuote [] (by simp)
      | false =>
          have goesOn : first.quote ∈ back := by
            rw [rest.mem_iff first.quote_isQuote]
            by_contra noLater
            exact shared ⟨tripled, fun literal isLater sameQuote =>
              noLater ⟨literal, isLater, sameQuote⟩⟩
          rw [StringLiteral.chars_append_of_single tripled]
          exact literalChars_over_quote first.quote_isQuote first.content goesOn

/-- Arguments whose first literal is not empty give a title. -/
theorem exists_title
    {arguments : List (List ArgumentPiece)}
    {first : StringLiteral}
    {later : List StringLiteral}
    (literals : literalsOf arguments = first :: later)
    (notEmpty : first.content ≠ []) :
    ∃ title,
      (∀ name, (Decorator.mk name (argumentsText arguments)).literal? = some title) ∧
        (title = String.ofList first.content ↔ HasOwnQuote first later) := by
  have quotes := quotes_argumentsText arguments
  rw [literals] at quotes
  by_cases ownQuote : HasOwnQuote first later
  · have cut := literalChars_of_hasOwnQuote quotes ownQuote
    rw [if_neg (by simpa using notEmpty)] at cut
    refine ⟨String.ofList first.content, fun name => ?_, iff_of_true rfl ownQuote⟩
    simp [Decorator.literal?, cut]
  · obtain ⟨title, cut, holdsQuote⟩ := literalChars_of_not_hasOwnQuote quotes ownQuote
    refine ⟨String.ofList title, fun name => ?_, iff_of_false ?_ ownQuote⟩
    · simp [Decorator.literal?, cut]
    · intro isContent
      rw [String.ofList_inj.mp isContent] at holdsQuote
      exact first.content_unquoted.not_mem first.quote_isQuote holdsQuote

/--
Arguments whose first literal is not empty give a title, which is the name to show of an
object that they rename, and the group of a declaration that they put into one.  It is
the content of that literal exactly if the literal has its quote to itself, whatever else
the arguments are.
-/
theorem title_is_first_literal_iff
    {arguments : List (List ArgumentPiece)}
    {first : StringLiteral}
    {later : List StringLiteral}
    (literals : literalsOf arguments = first :: later)
    (notEmpty : first.content ≠ []) :
    ∃ title,
      (∀ name, (Decorator.mk name (argumentsText arguments)).literal? = some title) ∧
      (∀ facts : Facts,
        facts.decorators.find? (·.name == renameDecorator) =
            some ⟨renameDecorator, argumentsText arguments⟩ →
          facts.displayName = title) ∧
      (∀ info : Info,
        info.decorators.find? (·.name == groupDecorator) =
            some ⟨groupDecorator, argumentsText arguments⟩ →
          info.classify = some ⟨title, .decorator⟩) ∧
      (title = String.ofList first.content ↔ HasOwnQuote first later) := by
  obtain ⟨title, given, isContent⟩ := exists_title literals notEmpty
  refine ⟨title, given, ?_, ?_, isContent⟩
  · intro facts renamed
    simp [Facts.displayName, literalOf?, renamed, given]
  · intro info grouped
    simp [Info.classify, literalOf?, grouped, given]

/-- The literal `"Clients"`. -/
def clientsLiteral : StringLiteral :=
  ⟨'"', false, "Clients".toList, by decide, by decide +kernel⟩

/-- The literal `first` in quotes. -/
def firstLiteral
    (quote : Char)
    (quote_isQuote : isQuote quote = true) :
    StringLiteral :=
  ⟨quote, false, "first".toList, quote_isQuote, by decide +kernel⟩

/-- A title, and an argument `order` whose value is a literal as well. -/
def orderedClients
    (quote : Char)
    (quote_isQuote : isQuote quote = true) :
    List (List ArgumentPiece) :=
  [ [.quoted clientsLiteral],
    [.plain " order=".toList (by decide +kernel), .quoted (firstLiteral quote quote_isQuote)] ]

/-- An object that arguments rename. -/
def renamedBy (arguments : String) : Facts :=
  { name := "_Client", decorators := [⟨renameDecorator, some arguments⟩] }

/-- A class that arguments put into a group. -/
def groupedBy (arguments : String) : Info :=
  { id := 1
    name := "Client"
    kind := .classDecl
    decorators := [⟨groupDecorator, some arguments⟩] }

/-- A later literal in other quotes leaves the title alone. -/
theorem title_is_first_literal_before_other_quotes :
    let arguments := orderedClients '\'' (by decide)
    let later := [firstLiteral '\'' (by decide)]
    argumentsText arguments = "(\"Clients\", order='first')" ∧
      literalsOf arguments = clientsLiteral :: later ∧
      clientsLiteral.content ≠ [] ∧
      HasOwnQuote clientsLiteral later ∧
      (renamedBy (argumentsText arguments)).displayName = "Clients" ∧
      (groupedBy (argumentsText arguments)).classify = some ⟨"Clients", .decorator⟩ := by
  intro arguments later
  have literals : literalsOf arguments = clientsLiteral :: later := rfl
  have notEmpty : clientsLiteral.content ≠ [] := by
    decide
  have ownQuote : HasOwnQuote clientsLiteral later := ⟨rfl, by decide⟩
  obtain ⟨title, -, isName, isGroup, isContent⟩ :=
    title_is_first_literal_iff literals notEmpty
  obtain rfl := isContent.mpr ownQuote
  exact ⟨by decide +kernel, literals, notEmpty, ownQuote, isName _ rfl, isGroup _ rfl⟩

/-- Up to a later literal in the same quotes all is taken into the title. -/
theorem title_takes_in_further_argument :
    let arguments := orderedClients '"' (by decide)
    argumentsText arguments = "(\"Clients\", order=\"first\")" ∧
      literalsOf arguments = [clientsLiteral, firstLiteral '"' (by decide)] ∧
      String.ofList clientsLiteral.content = "Clients" ∧
      (Decorator.mk groupDecorator (argumentsText arguments)).literal? =
        some "Clients\", order=\"first" ∧
      (renamedBy (argumentsText arguments)).displayName = "Clients\", order=\"first" ∧
      (groupedBy (argumentsText arguments)).classify =
        some ⟨"Clients\", order=\"first", .decorator⟩ := by
  intro arguments
  exact ⟨by decide +kernel, rfl, by decide, by decide +kernel, by decide +kernel,
    by decide +kernel⟩

end ApiTree.Dump
