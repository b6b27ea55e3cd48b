import ApiTree.Shell.Bytes

namespace ApiTree.Shell

/-!
# Escapes in printed texts

Texts that are printed may spell bytes by escapes.  A format also has places
for arguments; it is used again while arguments are left.
-/

/-- The byte that a letter after a backslash spells. -/
def letterEscape? (char : Char) : Option Char :=
  match char with
  | '\\' => some '\\'
  | 'a' => some '\x07'
  | 'b' => some '\x08'
  | 'f' => some '\x0c'
  | 'n' => some '\n'
  | 'r' => some '\r'
  | 't' => some '\t'
  | 'v' => some '\x0b'
  | _ => none

/-- Whether a character is an octal digit. -/
def isOctalDigit (char : Char) : Bool :=
  '0' ≤ char && char ≤ '7'

/-- The byte that octal digits spell. -/
def octalByte (digits : Bytes) : Char :=
  Char.ofNat
    ((digits.foldl (fun value digit => 8 * value + (digit.toNat - 48)) 0) % 256)

/-- The bytes that an escape spells, and the rest; the backslash is already left. -/
def escapeFrom (chars : Bytes) : Bytes × Bytes :=
  let digits := (chars.take 3).takeWhile isOctalDigit
  if digits.isEmpty then
    match chars with
    | char :: rest =>
        match letterEscape? char with
        | some byte => ([byte], rest)
        | none => (['\\'], chars)
    | [] => (['\\'], [])
  else
    ([octalByte digits], chars.drop digits.length)

/-- A text with its escapes read, and whether an escape ended all output. -/
def unescape : Nat → Bytes → Bytes × Bool
  | 0, chars => (chars, false)
  | _, [] => ([], false)
  | fuel + 1, '\\' :: rest =>
      match rest with
      | 'c' :: _ => ([], true)
      | '0' :: after =>
          let digits := (after.take 3).takeWhile isOctalDigit
          let (others, stopped) := unescape fuel (after.drop digits.length)
          (octalByte digits :: others, stopped)
      | _ =>
          let (bytes, after) := escapeFrom rest
          let (others, stopped) := unescape fuel after
          (bytes ++ others, stopped)
  | fuel + 1, char :: rest =>
      let (others, stopped) := unescape fuel rest
      (char :: others, stopped)

/-- What printing words with spaces between them puts out. -/
def echoBytes (words : List Bytes) : Bytes :=
  let (bare, words) :=
    match words with
    | ['-', 'n'] :: rest => (true, rest)
    | _ => (false, words)
  let text := List.intercalate [' '] words
  let (bytes, stopped) := unescape (text.length + 1) text
  if bare || stopped then bytes else bytes ++ ['\n']

/-- One use of a format: what it puts out, and the arguments that are left. -/
def formatOnce
    (arguments : List Bytes) :
    Nat → Bytes → Bytes × List Bytes
  | 0, _ => ([], arguments)
  | _, [] => ([], arguments)
  | fuel + 1, '\\' :: rest =>
      let (bytes, after) := escapeFrom rest
      let (others, left) := formatOnce arguments fuel after
      (bytes ++ others, left)
  | fuel + 1, '%' :: '%' :: rest =>
      let (others, left) := formatOnce arguments fuel rest
      ('%' :: others, left)
  | fuel + 1, '%' :: kind :: rest =>
      if kind = 's' ∨ kind = 'd' ∨ kind = 'i' ∨ kind = 'b' ∨ kind = 'c' then
        let argument := arguments.headD []
        let bytes :=
          if kind = 'b' then (unescape (argument.length + 1) argument).1
          else if kind = 'c' then argument.take 1
          else if kind = 's' then argument
          else if argument.isEmpty then ['0']
          else argument
        let (others, left) := formatOnce (arguments.drop 1) fuel rest
        (bytes ++ others, left)
      else
        let (others, left) := formatOnce arguments fuel rest
        ('%' :: kind :: others, left)
  | fuel + 1, char :: rest =>
      let (others, left) := formatOnce arguments fuel rest
      (char :: others, left)

/-- What printing arguments by a format puts out. -/
def formatBytes
    (format : Bytes) :
    Nat → List Bytes → Bytes
  | 0, _ => []
  | fuel + 1, arguments =>
      let (bytes, left) := formatOnce arguments (format.length + 1) format
      if left.isEmpty || left.length = arguments.length then
        bytes
      else
        bytes ++ formatBytes format fuel left

end ApiTree.Shell
