import ApiTree.Interp.ParserError
import ApiTree.Json.Decoder
import ApiTree.Json.Printer
import ApiTree.Hint.Descriptor
import ApiTree.Hint.Standard

namespace ApiTree.Interp

open ApiTree.Json (Decoder decode)
open ApiTree.Resolve (Answers)

/-!
# Responses of an evaluator

An evaluator is run as a program: it reads a request from one file and writes
its response to another.  The response is an object that holds the descriptor
of each expression that was understood.
-/

/-- The name of the file that holds the evaluator. -/
def scriptName : String := "parse_types.py"

/-- The name of the file that holds the request. -/
def requestName : String := "types-request.json"

/-- The name of the file that the response is written to. -/
def responseName : String := "types-parsed.json"

/-- The name of the file that holds what the evaluator reports as errors. -/
def errorLogName : String := "stderr.log"

/-- The request for a batch. -/
def requestText (expressions : List String) : String :=
  (Json.Value.ofStrings expressions).compact

/-- The answers in a response. -/
def readResponse (text : String) : Except ParserError Answers :=
  match decode (Decoder.map Decoder.value) text with
  | .ok answers => .ok answers
  | .error fault => .error (.invalidResponse (fault.textIn text))

/-- How a program ended. -/
inductive ExitStatus where
  | code (value : Nat)
  | signal (number : Nat)
  deriving Repr, DecidableEq

/-- The names of signals, from one on. -/
def signalNames : List String :=
  ["HUP", "INT", "QUIT", "ILL", "TRAP", "ABRT", "BUS", "FPE", "KILL", "USR1",
    "SEGV", "USR2", "PIPE", "ALRM", "TERM", "STKFLT", "CHLD", "CONT", "STOP",
    "TSTP", "TTIN", "TTOU", "URG", "XCPU", "XFSZ", "VTALRM", "PROF", "WINCH",
    "IO", "PWR", "SYS"]

/-- The text of an exit status. -/
def ExitStatus.text : ExitStatus → String
  | .code value => "exit status: " ++ toString value
  | .signal number =>
      "signal: " ++ toString number ++
        (match number with
          | 0 => ""
          | index + 1 =>
              match signalNames[index]? with
              | some name => " (SIG" ++ name ++ ")"
              | none => "")

/-- What stands in the errors of an evaluator that stopped at an expression. -/
def crashReport : String :=
  "Traceback (most recent call last):"

/-- The parser that evaluates expressions itself, as an interpreter does. -/
def evaluator [Hint.Interpreter] : TypeParser :=
  fun expressions =>
    match Hint.respond? expressions with
    | some response => readResponse response
    | none => .error (.failed (ExitStatus.code 1).text crashReport)

end ApiTree.Interp
