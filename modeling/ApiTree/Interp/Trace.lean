namespace ApiTree.Interp

/-!
# Where an interpreter was looked for

The type parser runs under an interpreter that has to be found first.  When
none is found, the places that were tried are reported in order.
-/

/-- The environment variable that names the interpreter. -/
def interpreterVariable : String := "DOCSPEC_PYTHON"

/-- A place that was tried: what was found there, and why it was not taken. -/
structure Attempt where
  source : String
  found : Option String
  reason : String
  deriving Repr, DecidableEq

/-- Why no interpreter can be run. -/
inductive DiscoveryError where
  /-- No place has one. -/
  | notFound (attempts : List Attempt)
  /-- The one that was asked for does not exist. -/
  | explicitMissing (path : String)
  deriving Repr, DecidableEq

/-- One place, for a message. -/
def Attempt.text (attempt : Attempt) : String :=
  attempt.source ++ ": " ++
    (match attempt.found with
      | some path => "found " ++ path ++ " - "
      | none => "") ++
    attempt.reason

/-- The places as numbered lines, counting from a number on. -/
def attemptLines
    (number : Nat) :
    List Attempt → String
  | [] => ""
  | attempt :: rest =>
      "  " ++ toString number ++ ". " ++ attempt.text ++ "\n" ++
        attemptLines (number + 1) rest

/-- The message of the error. -/
def DiscoveryError.message : DiscoveryError → String
  | .notFound attempts =>
      "no Python interpreter found for type resolution\n\n" ++
      "Resolution attempted:\n" ++ attemptLines 1 attempts ++ "\n" ++
      "Remediation:\n" ++
      "  a) Point " ++ interpreterVariable ++ " at a Python 3 interpreter\n" ++
      "  b) Pass --python /path/to/python3\n" ++
      "  c) Skip type resolution with --no-type-resolution\n"
  | .explicitMissing path => "Python interpreter " ++ path ++ " does not exist"

end ApiTree.Interp
