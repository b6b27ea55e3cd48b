import ApiTree.Shell.Word

namespace ApiTree.Shell

/-!
# Tokens of a command script

A script is cut into words, operators and redirections.  The text of a document
that a redirection announces stands on the lines after it.
-/

/-- What a token is. -/
inductive TokenKind where
  | word (pieces : Word)
  | operator (symbol : String)
  /-- A redirection, of the stream of a number where one is given. -/
  | redirect (stream : Option Nat) (symbol : String)
  /-- A redirection from a document. -/
  | document (content : Word)
  | broken (fault : WordFault)
  deriving Repr

/-- A token and the number of its line. -/
structure Token where
  kind : TokenKind
  line : Nat
  deriving Repr

/-- The operators, longer ones before their beginnings. -/
def operators : List String :=
  ["&&", "||", ";;", ";", "&", "|", "(", ")", "\n"]

/-- The redirections, longer ones before their beginnings. -/
def redirections : List String :=
  ["<<-", "<<", "<&", "<>", ">>", ">&", ">|", "<", ">"]

/-- The first of several symbols that stands at the start, and the rest. -/
def symbolAt?
    (symbols : List String)
    (chars : Bytes) :
    Option (String × Bytes) :=
  (symbols.find? fun symbol => symbol.toList.isPrefixOf chars).map fun symbol =>
    (symbol, chars.drop symbol.length)

/-- A redirection at the start: its stream, its symbol, and the rest. -/
def redirectionAt? (chars : Bytes) : Option (Option Nat × String × Bytes) :=
  let digits := chars.takeWhile Char.isDigit
  (symbolAt? redirections (chars.drop digits.length)).map fun found =>
    (decimal? digits, found.1, found.2)

/-- The number of lines that were left between two places. -/
def linesBetween
    (before after : Bytes) :
    Nat :=
  (before.take (before.length - after.length)).count '\n'

/-- A document that was announced: how it ends, and how it is read. -/
structure Announced where
  ending : Bytes
  isLiteral : Bool
  dropsTabs : Bool

/-- The lines up to the one that ends a document, and what follows it. -/
def documentLines
    (announced : Announced) :
    Nat → Bytes → Bytes × Bytes
  | 0, chars => ([], chars)
  | _, [] => ([], [])
  | fuel + 1, chars =>
      let line := chars.takeWhile (· != '\n')
      let after := (chars.drop line.length).drop 1
      let kept := if announced.dropsTabs then line.dropWhile (· == '\t') else line
      if kept = announced.ending then
        ([], after)
      else
        let (others, rest) := documentLines announced fuel after
        (kept ++ '\n' :: others, rest)

/-- The content of a document as a word. -/
def documentWord
    (announced : Announced)
    (content : Bytes) :
    Word :=
  if announced.isLiteral then
    [.text content true]
  else
    match quotedPieces false (content.length + 1) [] content with
    | .ok (pieces, _) => pieces
    | .error _ => [.text content true]

/-- Fills the announced documents of a line, in order. -/
def fillDocuments
    (waiting : List Announced)
    (tokens : List Token)
    (chars : Bytes) :
    List Token × Bytes :=
  match tokens with
  | [] => ([], chars)
  | token :: rest =>
      match token.kind, waiting with
      | .document _, announced :: others =>
          let (content, after) := documentLines announced (chars.length + 1) chars
          let (filled, final) := fillDocuments others rest after
          ({ token with kind := .document (documentWord announced content) } :: filled, final)
      | _, _ =>
          let (filled, final) := fillDocuments waiting rest chars
          (token :: filled, final)

/-- Leaves blanks, joined lines and a comment. -/
def skipBlanks : Nat → Bytes → Bytes
  | 0, chars => chars
  | fuel + 1, char :: rest =>
      if isSeparator char then skipBlanks fuel rest
      else if char = '#' then rest.dropWhile (· != '\n')
      else
        match char, rest with
        | '\\', '\n' :: after => skipBlanks fuel after
        | _, _ => char :: rest
  | _, [] => []

/--
The tokens of a text.  The tokens and the announced documents of the current
line wait until it ends.
-/
def tokensFrom
    (line : Nat)
    (waiting : List Announced)
    (current : List Token) :
    Nat → Bytes → List Token
  | 0, _ => current
  | fuel + 1, text =>
      let chars := skipBlanks (text.length + 1) text
      let line := line + linesBetween text chars
      if chars.isEmpty then
        (fillDocuments waiting current []).1
      else
        match redirectionAt? chars with
        | some (stream, symbol, after) =>
            if symbol = "<<" ∨ symbol = "<<-" then
              let start := skipBlanks (after.length + 1) after
              match wordPieces (start.length + 1) [] start with
              | .error fault => current ++ [⟨.broken fault, line⟩]
              | .ok (pieces, rest) =>
                  tokensFrom line
                    (waiting ++ [⟨staticText pieces, hasQuotes pieces, symbol = "<<-"⟩])
                    (current ++ [⟨.document [], line⟩]) fuel rest
            else
              tokensFrom line waiting
                (current ++ [⟨.redirect stream symbol, line⟩]) fuel after
        | none =>
            match symbolAt? operators chars with
            | some (symbol, after) =>
                if symbol = "\n" then
                  let (filled, rest) := fillDocuments waiting current after
                  filled ++ ⟨.operator symbol, line⟩ ::
                    tokensFrom (line + 1 + linesBetween after rest) [] [] fuel rest
                else
                  tokensFrom line waiting
                    (current ++ [⟨.operator symbol, line⟩]) fuel after
            | none =>
                match wordPieces (chars.length + 1) [] chars with
                | .error fault =>
                    current ++ [⟨.broken fault, line + linesBetween chars []⟩]
                | .ok (pieces, rest) =>
                    tokensFrom (line + linesBetween chars rest) waiting
                      (current ++ [⟨.word pieces, line⟩]) fuel rest

/-- The tokens of a script. -/
def tokensOf (script : Bytes) : List Token :=
  tokensFrom 1 [] [] (script.length + 1) script

end ApiTree.Shell
