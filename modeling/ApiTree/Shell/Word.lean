import ApiTree.Shell.Bytes

namespace ApiTree.Shell

/-!
# Words of a command script

A word is a sequence of pieces: text, the value of a parameter, or the output
of other commands.  Text and values in quotes are not split into fields.
-/

/-- A piece of a word. -/
inductive Piece where
  | text (chars : Bytes) (isQuoted : Bool)
  /-- The value of a parameter, or a text where it has none. -/
  | parameter (name : Bytes) (fallback : Option Bytes) (isQuoted : Bool)
  /-- The output of a script. -/
  | output (script : Bytes) (isQuoted : Bool)
  deriving Repr, DecidableEq

/-- A word. -/
abbrev Word : Type := List Piece

/-- A word with more text at its end. -/
def extend
    (word : Word)
    (chars : Bytes)
    (isQuoted : Bool) :
    Word :=
  match word.getLast? with
  | some (.text before quoted) =>
      if quoted = isQuoted then
        word.dropLast ++ [.text (before ++ chars) quoted]
      else
        word ++ [.text chars isQuoted]
  | _ => word ++ [.text chars isQuoted]

/-- Why a text cannot be cut into words. -/
inductive WordFault where
  | unterminatedQuote
  | endOfFile (expected : String)
  | badSubstitution
  deriving Repr, DecidableEq

/-- The characters up to a given one, and what follows it. -/
def splitAt?
    (stop : Char)
    (chars : Bytes) :
    Option (Bytes × Bytes) :=
  match chars.dropWhile (· != stop) with
  | [] => none
  | _ :: rest => some (chars.takeWhile (· != stop), rest)

/--
The script in parentheses that are already open, and what follows them.  The
depth counts parentheses opened inside.
-/
def enclosed?
    (depth : Nat)
    (quote : Option Char)
    (inside : Bytes) :
    Bytes → Option (Bytes × Bytes)
  | [] => none
  | char :: rest =>
      match quote with
      | some mark =>
          enclosed? depth (if char = mark then none else quote) (char :: inside) rest
      | none =>
          if char = '\x27' ∨ char = '"' then
            enclosed? depth (some char) (char :: inside) rest
          else if char = '(' then
            enclosed? (depth + 1) none (char :: inside) rest
          else if char = ')' then
            match depth with
            | 0 => some (inside.reverse, rest)
            | outer + 1 => enclosed? outer none (char :: inside) rest
          else
            enclosed? depth none (char :: inside) rest

/-- Parameters named by a single mark. -/
def isMark (char : Char) : Bool :=
  ['@', '*', '#', '?', '$', '!', '-'].contains char

/-- What a parameter in braces stands for. -/
def bracedPiece?
    (isQuoted : Bool)
    (inside : Bytes) :
    Option Piece :=
  match inside with
  | [] => none
  | first :: _ =>
      let name :=
        if isMark first then [first] else inside.takeWhile inName
      if name.isEmpty then
        none
      else
        match inside.drop name.length with
        | [] => some (.parameter name none isQuoted)
        | ':' :: '-' :: fallback | '-' :: fallback =>
            some (.parameter name (some fallback) isQuoted)
        | _ => none

/-- The piece that follows a dollar sign, and the rest. -/
def dollarPiece
    (isQuoted : Bool) :
    Bytes → Except WordFault (Piece × Bytes)
  | '(' :: rest =>
      match enclosed? 0 none [] rest with
      | some (script, after) => .ok (.output script isQuoted, after)
      | none => .error (.endOfFile ")")
  | '\x7b' :: rest =>
      match splitAt? '\x7d' rest with
      | some (inside, after) =>
          match bracedPiece? isQuoted inside with
          | some piece => .ok (piece, after)
          | none => .error .badSubstitution
      | none => .error (.endOfFile "\x7d")
  | char :: rest =>
      if char.isDigit || isMark char then
        .ok (.parameter [char] none isQuoted, rest)
      else if startsName char then
        .ok
          ( .parameter ((char :: rest).takeWhile inName) none isQuoted,
            rest.dropWhile inName )
      else
        .ok (.text ['$'] isQuoted, char :: rest)
  | [] => .ok (.text ['$'] isQuoted, [])

/-- The characters before which a backslash counts in double quotes. -/
def isEscapable (char : Char) : Bool :=
  ['$', '\x60', '"', '\\', '\n'].contains char

/--
The pieces up to the end of double quotes, or of the whole text where nothing
ends them.
-/
def quotedPieces
    (needsEnd : Bool) :
    Nat → Word → Bytes → Except WordFault (Word × Bytes)
  | 0, _, _ => .error .unterminatedQuote
  | _, pieces, [] => if needsEnd then .error .unterminatedQuote else .ok (pieces, [])
  | fuel + 1, pieces, char :: rest =>
      if char = '"' ∧ needsEnd then
        .ok (pieces, rest)
      else if char = '\\' then
        match rest with
        | '\n' :: after => quotedPieces needsEnd fuel pieces after
        | next :: after =>
            quotedPieces needsEnd fuel
              (extend pieces (if isEscapable next then [next] else ['\\', next]) true)
              after
        | [] => quotedPieces needsEnd fuel (extend pieces ['\\'] true) []
      else if char = '$' then do
        let (piece, after) ← dollarPiece true rest
        quotedPieces needsEnd fuel (pieces ++ [piece]) after
      else if char = '\x60' then
        match splitAt? '\x60' rest with
        | some (script, after) =>
            quotedPieces needsEnd fuel (pieces ++ [.output script true]) after
        | none => .error .unterminatedQuote
      else
        quotedPieces needsEnd fuel (extend pieces [char] true) rest

/-- Whether a character ends a word. -/
def endsWord (char : Char) : Bool :=
  [' ', '\t', '\n', ';', '&', '|', '<', '>', '(', ')'].contains char

/-- The pieces of a word, and the rest. -/
def wordPieces : Nat → Word → Bytes → Except WordFault (Word × Bytes)
  | 0, pieces, chars => .ok (pieces, chars)
  | _, pieces, [] => .ok (pieces, [])
  | fuel + 1, pieces, char :: rest =>
      if endsWord char then
        .ok (pieces, char :: rest)
      else if char = '\\' then
        match rest with
        | '\n' :: after => wordPieces fuel pieces after
        | next :: after => wordPieces fuel (extend pieces [next] true) after
        | [] => .ok (extend pieces ['\\'] true, [])
      else if char = '\x27' then
        match splitAt? '\x27' rest with
        | some (inside, after) => wordPieces fuel (extend pieces inside true) after
        | none => .error .unterminatedQuote
      else if char = '"' then do
        let (inside, after) ← quotedPieces true fuel [] rest
        wordPieces fuel (extend pieces [] true ++ inside) after
      else if char = '$' then do
        let (piece, after) ← dollarPiece false rest
        wordPieces fuel (pieces ++ [piece]) after
      else if char = '\x60' then
        match splitAt? '\x60' rest with
        | some (script, after) =>
            wordPieces fuel (pieces ++ [.output script false]) after
        | none => .error .unterminatedQuote
      else
        wordPieces fuel (extend pieces [char] false) rest

/-- The characters of a word without quotes and values. -/
def plainText? : Word → Option Bytes
  | [] => some []
  | .text chars false :: rest => (plainText? rest).map (chars ++ ·)
  | _ :: _ => none

/-- The characters of a word without values, quotes removed. -/
def staticText : Word → Bytes
  | [] => []
  | .text chars _ :: rest => chars ++ staticText rest
  | _ :: rest => staticText rest

/-- Whether a part of a word is quoted. -/
def hasQuotes (word : Word) : Bool :=
  word.any fun piece =>
    match piece with
    | .text _ isQuoted => isQuoted
    | _ => false

/-- The word that an unquoted name and a value make, if it is an assignment. -/
def assignment? (word : Word) : Option (Bytes × Word) :=
  let unquoted := word.takeWhile fun piece =>
    match piece with
    | .text _ false => true
    | _ => false
  let chars := staticText unquoted
  match splitAt? '=' chars with
  | some (name, value) =>
      match name with
      | first :: _ =>
          if startsName first && name.all inName then
            some (name, .text value false :: word.drop unquoted.length)
          else
            none
      | [] => none
  | none => none

end ApiTree.Shell
