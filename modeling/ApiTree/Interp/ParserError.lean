import ApiTree.Interp.Trace
import ApiTree.Resolve.Pending

namespace ApiTree.Interp

open ApiTree.Resolve (Answers)

/-!
# Type parsers

A type parser answers a batch of expressions, or fails for the whole batch.
An expression that it does not understand is simply not answered.
-/

/-- Why a batch was not answered. -/
inductive ParserError where
  /-- There is no interpreter. -/
  | discovery (error : DiscoveryError)
  /-- The interpreter could not be started. -/
  | spawnFailed (interpreter reason : String)
  /-- The interpreter did not end in time. -/
  | timeout (seconds : Nat)
  /-- The interpreter ended without success. -/
  | failed (status errorText : String)
  /-- What the interpreter wrote is no response. -/
  | invalidResponse (reason : String)
  deriving Repr, DecidableEq

/-- The message of the error. -/
def ParserError.message : ParserError → String
  | .discovery error => error.message
  | .spawnFailed interpreter reason =>
      "failed to spawn type parser with " ++ interpreter ++ ": " ++ reason
  | .timeout seconds =>
      "type parser timed out after " ++ toString seconds ++ "s"
  | .failed status errorText =>
      "type parser exited with " ++ status ++ ": " ++ errorText
  | .invalidResponse reason => "invalid type parser response: " ++ reason

/-- A type parser. -/
abbrev TypeParser : Type :=
  List String → Except ParserError Answers

namespace TypeParser

/-- The parser that answers nothing. -/
def silent : TypeParser :=
  fun _ => .ok []

/-- The parser that answers from a table. -/
def ofTable (table : Answers) : TypeParser :=
  fun expressions =>
    .ok (expressions.filterMap fun expression =>
      (table.lookup expression).map fun answer => (expression, answer))

/-- The parser that fails on every batch. -/
def failing (error : ParserError) : TypeParser :=
  fun _ => .error error

end TypeParser

end ApiTree.Interp
