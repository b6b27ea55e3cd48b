import ApiTree.Decl.Hierarchy
import ApiTree.Dump.Reader
import ApiTree.Interp.ParserError

namespace ApiTree.Convert

open ApiTree.Json (Value)

/-!
# Failures of a run

Whatever goes wrong in a run ends as one of five failures, each with an exit
code and sometimes with details.
-/

/-- Why a run failed. -/
inductive Failure where
  | invalidArguments (message : String) (details : Option Value)
  | typeResolution (message : String)
  | inheritance (message member ancestor : String)
  | io (path message : String)
  | internal (message : String)
  deriving Repr

namespace Failure

/-- The exit code. -/
def code : Failure → Nat
  | .invalidArguments _ _ => 2
  | .typeResolution _ => 3
  | .inheritance _ _ _ => 4
  | .io _ _ => 5
  | .internal _ => 10

/-- The message. -/
def text : Failure → String
  | .invalidArguments message _ => "invalid arguments: " ++ message
  | .typeResolution message => "type resolution failed: " ++ message
  | .inheritance message _ _ => "inheritance failed: " ++ message
  | .io path message => "I/O error on " ++ path ++ ": " ++ message
  | .internal message => "internal error: " ++ message

/-- The details, where there are any. -/
def details? : Failure → Option Value
  | .invalidArguments _ details => details
  | .inheritance _ member ancestor =>
      some (.object [("ancestor", .string ancestor), ("member", .string member)])
  | .io path _ => some (.object [("path", .string path)])
  | .typeResolution _ | .internal _ => none

/-- The failure of a malformed dump: its details name the line. -/
def ofDump (error : Dump.DumpError) : Failure :=
  .invalidArguments error.message (some (.object [("line", .ofNat error.line)]))

/-- The failure of inheriting. -/
def ofHierarchy (error : Decl.HierarchyError) : Failure :=
  match error with
  | .missingGroup member ancestor => .inheritance error.message member ancestor

/-- The failure of the type parser. -/
def ofParser (error : Interp.ParserError) : Failure :=
  .typeResolution error.message

/-- The failure of reading a text as JSON. -/
def ofJson
    (text : String)
    (fault : Json.Fault) :
    Failure :=
  .invalidArguments ("malformed JSON: " ++ fault.textIn text) none

end Failure

/-! ## Envelopes -/

/-- The version of the envelopes. -/
def schemaVersion : String := "1"

/-- What a run that succeeded reports. -/
structure Report where
  status : String := "ok"
  output : String
  modules : Nat
  declarations : Nat
  inheritedMembers : Nat
  resolvedTypes : Nat
  warnings : List String
  deriving Repr, DecidableEq

/-- The written form of a report. -/
def Report.json (report : Report) : Value :=
  .object
    ([("status", .string report.status),
        ("schema_version", .string schemaVersion),
        ("output", .string report.output),
        ("modules", .ofNat report.modules),
        ("declarations", .ofNat report.declarations),
        ("inherited_members", .ofNat report.inheritedMembers),
        ("resolved_types", .ofNat report.resolvedTypes)] ++
      (if report.warnings.isEmpty then
        []
      else
        [("warnings", .ofStrings report.warnings)]))

/-- The written form of a failure. -/
def Failure.json (failure : Failure) : Value :=
  .object
    [("status", .string "error"),
      ("schema_version", .string schemaVersion),
      ("error",
        .object
          ([("code", .ofNat failure.code), ("message", .string failure.text)] ++
            (match failure.details? with
              | some details => [("details", details)]
              | none => [])))]

/-- What a run prints: one value spread over lines, and a line feed. -/
def envelope (value : Value) : String :=
  value.pretty ++ "\n"

end ApiTree.Convert
