import ApiTree.Dump.Object

namespace ApiTree.Dump

open ApiTree.Json (Category Decoder Fault Position)
open ApiTree.Text (trimStart)

/-!
# Reading dumps

A dump is one list of modules, or one module on each line.  A fault is reported
with the line on which it was noticed.
-/

/-- A fault of a dump: the line, the fault, and the text the fault lies in. -/
structure DumpError where
  line : Nat
  fault : Fault
  text : String
  deriving Repr

namespace DumpError

/-- The message of the fault in its text. -/
def reason (error : DumpError) : String :=
  error.fault.textIn error.text

/-- The message of the error. -/
def message (error : DumpError) : String :=
  "malformed docspec input at line " ++ toString error.line ++ ": " ++ error.reason

/-- The class of the fault. -/
def category (error : DumpError) : Category :=
  error.fault.cause.category

end DumpError

/-- Reads the module on one line. -/
def readLine
    (line : Nat)
    (text : String) :
    Except DumpError ApiObject :=
  match Json.decode ApiObject.decoder text with
  | .ok object => .ok object
  | .error fault => .error ⟨line, fault, text⟩

/-- Reads one module on each line that is not blank, counting lines from a number on. -/
def readLines
    (line : Nat) :
    List String → Except DumpError (List ApiObject)
  | [] => .ok []
  | text :: rest =>
      if ApiTree.Text.isAllBlank text then
        readLines (line + 1) rest
      else do
        let object ← readLine line text
        let objects ← readLines (line + 1) rest
        .ok (object :: objects)

/-- Reads one list of modules. -/
def readList (text : String) : Except DumpError (List ApiObject) :=
  match Json.decode (Decoder.list ApiObject.decoder) text with
  | .ok objects => .ok objects
  | .error fault => .error ⟨(Position.of text fault.offset).line, fault, text⟩

/-- Reads a dump. -/
def read (input : String) : Except DumpError (List ApiObject) :=
  let trimmed := trimStart input
  if trimmed.toList.head? = some '[' then
    readList trimmed
  else
    readLines 1 (ApiTree.Text.lines input)

end ApiTree.Dump
