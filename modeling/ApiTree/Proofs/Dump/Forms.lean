import ApiTree.Dump.Reader
import ApiTree.Proofs.Dump.Decoding
import ApiTree.Proofs.Json.Embedding
import ApiTree.Proofs.Text.Lines

namespace ApiTree.Dump

open ApiTree.Json (Decoder Document Spells Tree levelLimit)
open ApiTree.Text (IsLineOf firstInk? isAllBlank)

/-!
# The two forms of a dump

A list of modules and one module on each line are read alike.  In the list every module
stands among others, one level deeper and at another place, and none of this changes
what is decoded from it.
-/

/-- That a text is one line that holds one object of a dump, not nested too deeply. -/
structure HoldsObject (text : String) : Prop where
  oneLine : '\n' ∉ text.toList
  /-- What follows the white space opens an object. -/
  isObject : (text.toList.dropWhile Json.isSpace).head? = some '\x7b'
  decodes : ∃ object, Json.decode ApiObject.decoder text = .ok object
  /-- One level less than may be opened, since a list around the object opens one. -/
  nesting_le : (Document.of text).tree.nesting ≤ 126

theorem holdsObject_iff (text : String) :
    HoldsObject text ↔
      '\n' ∉ text.toList ∧
        (text.toList.dropWhile Json.isSpace).head? = some '\x7b' ∧
        (Json.decode ApiObject.decoder text).toOption.isSome ∧
        (Document.of text).tree.nesting ≤ 126 := by
  have decodes_iff : (∃ object, Json.decode ApiObject.decoder text = .ok object) ↔
      (Json.decode ApiObject.decoder text).toOption.isSome := by
    cases Json.decode ApiObject.decoder text <;> simp [Except.toOption]
  constructor
  · rintro ⟨oneLine, isObject, decodes, nesting_le⟩
    exact ⟨oneLine, isObject, decodes_iff.mp decodes, nesting_le⟩
  · rintro ⟨oneLine, isObject, decodes, nesting_le⟩
    exact ⟨oneLine, isObject, decodes_iff.mpr decodes, nesting_le⟩

instance (text : String) : Decidable (HoldsObject text) :=
  decidable_of_iff' _ (holdsObject_iff text)

/-! ## Single texts -/

variable
    {text : String}
    {object : ApiObject}

/-- A text that is decoded is complete, and its object is decoded from its tree. -/
theorem spells_of_decode (decoded : Json.decode ApiObject.decoder text = .ok object) :
    Spells text.toList (Document.of text).tree ∧
      ApiObject.decoder levelLimit (Document.of text).tree = .ok object := by
  obtain ⟨tree, spells, fromTree⟩ :=
    Spells.exists_of_decode (fun _ cut => ApiObject.decoder_ne_ok_of_isCut cut _ _) decoded
  rw [spells.document]
  exact ⟨spells, fromTree⟩

/-- The object of a text is decoded from any tree that differs in its places only. -/
theorem decoder_of_bare_eq
    {tree : Tree}
    {levels : Nat}
    (decoded : Json.decode ApiObject.decoder text = .ok object)
    (nesting_le : (Document.of text).tree.nesting ≤ 126)
    (same : (Document.of text).tree.bare = tree.bare)
    (enough : 126 < levels) :
    ApiObject.decoder levels tree = .ok object := by
  have sameNesting : tree.nesting = (Document.of text).tree.nesting := by
    rw [← Tree.nesting_bare, ← same, Tree.nesting_bare]
  refine Json.ok_of_toOption_eq (ApiObject.toOption_decoder_eq same.symm ?_ ?_)
    (spells_of_decode decoded).2
  · omega
  · rw [levelLimit]
    omega

/-- White space of a text in JSON is white space of a text. -/
theorem isBlank_of_isSpace
    {char : Char}
    (space : Json.isSpace char = true) :
    ApiTree.Text.isBlank char = true := by
  simp only [Json.isSpace, Bool.or_eq_true, beq_iff_eq] at space
  rcases space with ((rfl | rfl) | rfl) | rfl <;> decide

namespace HoldsObject

theorem firstInk?_eq (holds : HoldsObject text) :
    firstInk? text.toList = some '\x7b' := by
  have isObject := holds.isObject
  generalize text.toList = chars at isObject ⊢
  induction chars with
  | nil => cases isObject
  | cons char chars inductionHypothesis =>
      rw [List.dropWhile_cons] at isObject
      split at isObject
      · rename_i space
        rw [firstInk?, List.find?_cons, isBlank_of_isSpace space]
        exact inductionHypothesis isObject
      · cases isObject
        rfl

/-- A lost carriage return changes nothing of what is decoded. -/
theorem decode_of_isLineOf
    {line : String}
    (holds : HoldsObject text)
    (decoded : Json.decode ApiObject.decoder text = .ok object)
    (isLine : IsLineOf text.toList line.toList) :
    Json.decode ApiObject.decoder line = .ok object := by
  rcases isLine with same | returned
  · rw [String.toList_inj.mp same]
    exact decoded
  · obtain ⟨spells, -⟩ := spells_of_decode decoded
    rw [returned] at spells
    obtain ⟨tree, spellsLine, same⟩ := spells.exists_of_return
    refine Json.ok_of_toOption_eq
      (Json.Reads.toOption_decode_of_document _ spellsLine.document) ?_
    exact decoder_of_bare_eq decoded holds.nesting_le same (by decide)

theorem firstInk?_of_isLineOf
    {line : String}
    (holds : HoldsObject text)
    (isLine : IsLineOf text.toList line.toList) :
    firstInk? line.toList = some '\x7b' := by
  have ink := holds.firstInk?_eq
  rcases isLine with same | returned
  · rw [same]
    exact ink
  · have noInk : firstInk? ['\r'] = none := by decide
    rw [returned, ApiTree.Text.firstInk?_append, noInk, Option.or_none] at ink
    exact ink

end HoldsObject

/-! ## The list form -/

variable
    {texts : List String}
    {modules : List ApiObject}

/-- The modules are decoded from the items of a list as from the texts by themselves. -/
theorem each_of_bare_eq
    {items : List Tree}
    (nesting_le : ∀ text ∈ texts, (Document.of text).tree.nesting ≤ 126)
    (decoded : List.Forall₂
      (fun text object => Json.decode ApiObject.decoder text = .ok object) texts modules)
    (same : texts.map (fun text => (Document.of text).tree.bare) = items.map Tree.bare) :
    Decoder.each (ApiObject.decoder 127) items = .ok modules := by
  induction decoded generalizing items with
  | nil =>
      rw [List.map_nil, eq_comm, List.map_eq_nil_iff] at same
      rw [same]
      rfl
  | cons first _ inductionHypothesis =>
      obtain ⟨item, others, rfl, sameItem, sameOthers⟩ :=
        List.map_eq_cons_iff.mp same.symm
      obtain ⟨firstNesting, otherNesting⟩ := List.forall_mem_cons.mp nesting_le
      rw [Decoder.each, decoder_of_bare_eq first firstNesting sameItem.symm (by decide),
        inductionHypothesis otherNesting sameOthers.symm]
      rfl

/-- The texts with commas between them and brackets around them are read as a list. -/
theorem read_list
    (hold : ∀ text ∈ texts, HoldsObject text)
    (decoded : List.Forall₂
      (fun text object => Json.decode ApiObject.decoder text = .ok object) texts modules) :
    read ("[" ++ String.intercalate "," texts ++ "]") = .ok modules := by
  have chars_eq : ("[" ++ String.intercalate "," texts ++ "]").toList =
      '[' :: (List.intercalate [','] (texts.map String.toList) ++ [']']) := by
    simp
  have spells : List.Forall₂ Spells (texts.map String.toList)
      (texts.map fun text => (Document.of text).tree) := by
    rw [List.forall₂_map_left_iff, List.forall₂_map_right_iff, List.forall₂_same]
    intro text isText
    obtain ⟨object, decodes⟩ := (hold text isText).decodes
    exact (spells_of_decode decodes).1
  obtain ⟨items, closed, spellsList, same⟩ := Spells.list spells
  rw [← chars_eq] at spellsList
  rw [List.map_map] at same
  have modulesRead : Decoder.list ApiObject.decoder levelLimit
      (.array 0 items (.closed closed)) = .ok modules := by
    have eachRead :=
      each_of_bare_eq (fun text isText => (hold text isText).nesting_le) decoded same
    simp only [Decoder.list, levelLimit, Json.openLevel, bind, Except.bind, eachRead,
      Json.Ending.read]
  have untrimmed : ApiTree.Text.trimStart ("[" ++ String.intercalate "," texts ++ "]") =
      "[" ++ String.intercalate "," texts ++ "]" := by
    rw [ApiTree.Text.trimStart, chars_eq, ApiTree.Text.dropBlanks,
      List.dropWhile_cons_of_neg (by decide), ← chars_eq, String.ofList_toList]
  have isDecoded := Json.ok_of_toOption_eq
    (Json.Reads.toOption_decode_of_document (Decoder.list ApiObject.decoder)
      spellsList.document) modulesRead
  rw [read, untrimmed, chars_eq]
  simp only [List.head?_cons, if_true, readList, isDecoded]

/-! ## The line form -/

/-- Lines are read one by one, blank ones left out. -/
theorem readLines_eq
    {lines : List String}
    (decoded : List.Forall₂
      (fun text object => Json.decode ApiObject.decoder text = .ok object)
      (lines.filter (!isAllBlank ·)) modules)
    (first : Nat) :
    readLines first lines = .ok modules := by
  induction lines generalizing first modules with
  | nil =>
      cases decoded
      rfl
  | cons line lines inductionHypothesis =>
      rw [List.filter_cons] at decoded
      rw [readLines]
      cases blank : isAllBlank line with
      | true =>
          rw [blank] at decoded
          exact inductionHypothesis decoded _
      | false =>
          rw [blank] at decoded
          cases decoded with
          | cons firstDecoded othersDecoded =>
              rw [readLine, firstDecoded]
              simp only [inductionHypothesis othersDecoded]
              rfl

/-- A text whose lines hold one object each is read line by line. -/
theorem read_of_lines
    {input : String}
    (decoded : List.Forall₂
      (fun line object => Json.decode ApiObject.decoder line = .ok object)
      ((ApiTree.Text.lines input).filter (!isAllBlank ·)) modules)
    (ink : ∀ line ∈ (ApiTree.Text.lines input).filter (!isAllBlank ·),
      firstInk? line.toList = some '\x7b') :
    read input = .ok modules := by
  -- The first ink of the input is that of a line, so it opens no list.
  have notList : firstInk? input.toList ≠ some '[' := by
    intro isList
    rw [← ApiTree.Text.firstInk?_lineChars] at isList
    obtain ⟨line, isLine, inkEq⟩ := List.exists_of_findSome?_eq_some isList
    have isBrace := ink (String.ofList line) (by
      rw [List.mem_filter, ApiTree.Text.isAllBlank_eq, String.toList_ofList, inkEq]
      exact ⟨List.mem_map_of_mem isLine, rfl⟩)
    rw [String.toList_ofList, inkEq] at isBrace
    cases isBrace
  have notTrimmedList :
      ¬ (ApiTree.Text.trimStart input).toList.head? = some '[' := by
    rw [ApiTree.Text.trimStart, String.toList_ofList, ApiTree.Text.head?_dropBlanks]
    exact notList
  rw [read]
  simp only [if_neg notTrimmedList]
  exact readLines_eq decoded 1

/-- Joined lines are the lines that are read, but for blank ones. -/
theorem lines_intercalate
    {lines : List String}
    (noFeed : ∀ line ∈ lines, '\n' ∉ line.toList) :
    List.Forall₂ (fun text line => IsLineOf text.toList line.toList)
      (lines.filter (!isAllBlank ·))
      ((ApiTree.Text.lines (String.intercalate "\n" lines)).filter (!isAllBlank ·)) := by
  have inked := ApiTree.Text.inked_lineChars_intercalate (List.forall_mem_map.mpr noFeed)
  rw [List.filter_map, List.forall₂_map_left_iff] at inked
  rw [ApiTree.Text.lines, List.filter_map, List.forall₂_map_right_iff]
  simpa [Function.comp_def, ApiTree.Text.isAllBlank_eq] using inked

/-- What is decoded from texts is decoded from their lines. -/
theorem decode_lines
    {lines : List String}
    (areLines : List.Forall₂
      (fun text line => IsLineOf text.toList line.toList) texts lines)
    (hold : ∀ text ∈ texts, HoldsObject text)
    (decoded : List.Forall₂
      (fun text object => Json.decode ApiObject.decoder text = .ok object) texts modules) :
    List.Forall₂ (fun line object => Json.decode ApiObject.decoder line = .ok object)
        lines modules ∧
      ∀ line ∈ lines, firstInk? line.toList = some '\x7b' := by
  induction areLines generalizing modules with
  | nil =>
      cases decoded
      exact ⟨.nil, List.forall_mem_nil _⟩
  | cons isLine _ inductionHypothesis =>
      obtain ⟨holdsFirst, othersHold⟩ := List.forall_mem_cons.mp hold
      cases decoded with
      | cons firstDecoded othersDecoded =>
          obtain ⟨linesDecoded, ink⟩ := inductionHypothesis othersHold othersDecoded
          exact ⟨.cons (holdsFirst.decode_of_isLineOf firstDecoded isLine) linesDecoded,
            List.forall_mem_cons.mpr ⟨holdsFirst.firstInk?_of_isLineOf isLine, ink⟩⟩

/-! ## Both forms -/

theorem exists_modules (decodes : ∀ text ∈ texts,
      ∃ object, Json.decode ApiObject.decoder text = .ok object) :
    ∃ modules, List.Forall₂
      (fun text object => Json.decode ApiObject.decoder text = .ok object)
      texts modules := by
  induction texts with
  | nil => exact ⟨[], .nil⟩
  | cons text texts inductionHypothesis =>
      obtain ⟨⟨object, first⟩, others⟩ := List.forall_mem_cons.mp decodes
      obtain ⟨objects, othersDecoded⟩ := inductionHypothesis others
      exact ⟨object :: objects, .cons first othersDecoded⟩

/--
Texts that hold one object each are read as the same modules in both forms: with commas
between them and brackets around them, and as lines with any blank lines between them.
-/
theorem list_and_lines_agree (hold : ∀ text ∈ texts, HoldsObject text) :
    ∃ modules,
      List.Forall₂ (fun text object => Json.decode ApiObject.decoder text = .ok object)
          texts modules ∧
        read ("[" ++ String.intercalate "," texts ++ "]") = .ok modules ∧
        (∀ lines : List String,
          lines.filter (!isAllBlank ·) = texts →
            (∀ line ∈ lines, isAllBlank line → '\n' ∉ line.toList) →
              read (String.intercalate "\n" lines) = .ok modules) ∧
        ∀ input, (ApiTree.Text.lines input).filter (!isAllBlank ·) = texts →
          read input = .ok modules := by
  obtain ⟨modules, decoded⟩ := exists_modules fun text isText => (hold text isText).decodes
  refine ⟨modules, decoded, read_list hold decoded, ?_, ?_⟩
  · rintro lines rfl blanks
    have noFeed : ∀ line ∈ lines, '\n' ∉ line.toList := by
      intro line isLine
      cases blank : isAllBlank line with
      | true => exact blanks line isLine blank
      | false => exact (hold line (by simp [isLine, blank])).oneLine
    obtain ⟨linesDecoded, ink⟩ := decode_lines (lines_intercalate noFeed) hold decoded
    exact read_of_lines linesDecoded ink
  · rintro input rfl
    exact read_of_lines decoded fun line isLine => (hold line isLine).firstInk?_eq

theorem list_and_lines_agree_of_blanks :
    ∃ modules : List ApiObject,
      modules.map (·.facts.name) = ["ab", "c"] ∧
        read ("[\x7b\"name\":\"a\\u0062\",\"members\":[\x7b\"name\":\"f\"\x7d]\x7d," ++
          " \x7b\"name\":\"c\",\"args\":null,\"x\":[\x7b\x7d]\x7d\r]") = .ok modules ∧
        read ("\n\x7b\"name\":\"a\\u0062\",\"members\":[\x7b\"name\":\"f\"\x7d]\x7d\n" ++
          " \t\n \x7b\"name\":\"c\",\"args\":null,\"x\":[\x7b\x7d]\x7d\r\n") = .ok modules := by
  let first := "\x7b\"name\":\"a\\u0062\",\"members\":[\x7b\"name\":\"f\"\x7d]\x7d"
  let second := " \x7b\"name\":\"c\",\"args\":null,\"x\":[\x7b\x7d]\x7d\r"
  have hold : ∀ text ∈ [first, second], HoldsObject text := by decide +kernel
  obtain ⟨modules, decoded, asList, asLines, -⟩ := list_and_lines_agree hold
  refine ⟨modules, ?_, asList, asLines ["", first, " \t", second, ""] ?_ (by decide)⟩
  · have names : [first, second].map
        (fun text => (Json.decode ApiObject.decoder text).toOption.map (·.facts.name)) =
          [some "ab", some "c"] := by
      decide +kernel
    cases decoded with
    | cons firstDecoded othersDecoded =>
        cases othersDecoded with
        | cons secondDecoded noneDecoded =>
            cases noneDecoded
            simpa [firstDecoded, secondDecoded, Except.toOption] using names
  · decide +kernel

end ApiTree.Dump
