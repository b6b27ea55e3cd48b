import ApiTree.Text.Blank
import ApiTree.Text.Visible

namespace ApiTree.Text

/-!
# Quoted text in messages

A text inside a message stands between double quotes.  Quotes, backslashes and
the usual controls are escaped with a backslash; a character without a visible
form, or one that attaches to the character before it, is written as its code
point in hexadecimal between braces.
-/

/-- The lower-case hexadecimal digits of a number, no leading zeros. -/
def hexDigits (value : Nat) : List Char :=
  Nat.toDigits 16 value

/-- Hexadecimal digits, at least as many as asked for. -/
def paddedHex
    (width : Nat)
    (value : Nat) :
    List Char :=
  let digits := hexDigits value
  List.replicate (width - digits.length) '0' ++ digits

/-- Whether a character shows by itself. -/
def isVisible (char : Char) : Bool :=
  !inRanges unprintableRanges char.toNat &&
    !inRanges extenderRanges char.toNat

/-- One character as it stands between the quotes. -/
def quoteChar (char : Char) : List Char :=
  if char = '\x00' then ['\\', '0']
  else if char = '\t' then ['\\', 't']
  else if char = '\r' then ['\\', 'r']
  else if char = '\n' then ['\\', 'n']
  else if char = '"' then ['\\', '"']
  else if char = '\\' then ['\\', '\\']
  else if isVisible char then [char]
  else ['\\', 'u', '\x7b'] ++ hexDigits char.toNat ++ ['\x7d']

/-- A text between double quotes. -/
def quoted (text : String) : String :=
  String.ofList ('"' :: text.toList.flatMap quoteChar ++ ['"'])

end ApiTree.Text
