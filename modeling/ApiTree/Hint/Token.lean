import ApiTree.Hint.Constant

namespace ApiTree.Hint

/-!
# Tokens

A type expression is a list of tokens.  Names are in normal form; keywords and
operators are marks.
-/

/-- A token. -/
inductive Token where
  | name (text : String)
  /-- A keyword or an operator. -/
  | mark (text : String)
  | number (value : Constant)
  | text (points : List Nat)
  | bytes
  /-- A string with expressions inside. -/
  | formatted (expressions : List (List Char))
  | newline
  /-- What cannot be scanned; nothing behind it is. -/
  | broken
  deriving Repr, Inhabited

/-- The names that are reserved. -/
def keywords : List String :=
  [ "False", "None", "True", "and", "as", "assert", "async", "await", "break",
    "class", "continue", "def", "del", "elif", "else", "except", "finally",
    "for", "from", "global", "if", "import", "in", "is", "lambda", "nonlocal",
    "not", "or", "pass", "raise", "return", "try", "while", "with", "yield" ]

/-- The operators, longer ones first. -/
def operators : List String :=
  [ "**=", "//=", "<<=", ">>=", "...", "!=", "%=", "&=", "**", "*=", "+=",
    "-=", "->", "//", "/=", ":=", "<<", "<=", "<>", "==", ">=", ">>", "@=",
    "^=", "|=", "%", "&", "(", ")", "*", "+", ",", "-", ".", "/", ":", ";",
    "<", "=", ">", "@", "[", "]", "^", "\x7b", "|", "\x7d", "~" ]

/-- The bracket that closes what an opening bracket opens. -/
def closer? (opening : String) : Option String :=
  if opening = "(" then some ")"
  else if opening = "[" then some "]"
  else if opening = "\x7b" then some "\x7d"
  else none

/-- Whether a mark is a closing bracket. -/
def isCloser (mark : String) : Bool :=
  mark == ")" || mark == "]" || mark == "\x7d"

/-- How deep brackets may nest. -/
def bracketLimit : Nat := 200

end ApiTree.Hint
