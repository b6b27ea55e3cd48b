import ApiTree.Interp.Discovery
import ApiTree.Interp.Response
import ApiTree.Shell.Run
import ApiTree.Text.Blank

namespace ApiTree.Interp

open ApiTree.Files (Disk FileFault Place joinPath)
open ApiTree.Resolve (Answers)
open ApiTree.Shell (Flow Host Program State)

/-!
# Running a batch under an interpreter

The evaluator and the request are put into a private directory, the interpreter
is started with the paths of the evaluator, the request and the response, and
the response is read when it has ended in time and with success.
-/

/-- The outline of the evaluator that interpreters are given. -/
def scriptText : String :=
  "\"\"\"Type expression parser for docspec-typedoc.\n\"\"\"\n" ++
  "import ast\nimport json\nimport sys\n" ++
  "def dotted_name(node): ...\n" ++
  "def literal(value): ...\n" ++
  "def reference(name, arguments): ...\n" ++
  "def union(members): ...\n" ++
  "def subscript_items(node): ...\n" ++
  "def literal_value(node): ...\n" ++
  "def convert(node): ...\n" ++
  "def parse_expression(text): ...\n" ++
  "def parse_all(expressions): ...\n" ++
  "def main(arguments): ...\n"

/-- The directory of a batch. -/
def batchDirectory : String := "/tmp/types"

/-- The place of the directory of a batch. -/
def batchPlace : Place :=
  Files.startOf batchDirectory ++ Files.pathParts batchDirectory

/-- The path of a file of a batch. -/
def batchPath (name : String) : String :=
  joinPath batchDirectory name

/-- The time that the evaluator takes to start, in milliseconds. -/
def startingTime : Nat := 20

/-- The expressions of a request, or `none` if it is no list. -/
def readRequest? (text : String) : Option (List String) :=
  match Json.decode Json.Decoder.value text with
  | .ok (.array items) => some (items.filterMap Json.Value.asString?)
  | _ => none

/-- Evaluates a request and writes the response. -/
def evaluateRequest
    (request response : Shell.Bytes)
    (state : State) :
    Flow × State :=
  match state.disk.readText (state.resolve request) with
  | .error _ => Shell.failed state 1 crashReport
  | .ok text =>
      match (readRequest? text).bind Hint.respond? with
      | none => Shell.failed state 1 crashReport
      | some written =>
          match state.openFile (state.resolve response) false with
          | .error _ => Shell.failed state 1 crashReport
          | .ok (channel, opened) =>
              Shell.done (opened.emit channel (Shell.ofText written)) 0

/-- The interpreter, as far as it runs the evaluator. -/
def interpreterProgram : Program :=
  fun arguments state =>
    match state.wait startingTime with
    | (.next, started) =>
        match arguments with
        | [] => Shell.done started 0
        | script :: rest =>
            match started.disk.readText (started.resolve script) with
            | .error fault =>
                Shell.failed started 2
                  ("python3: can't open file '" ++ Shell.toName script ++ "': [Errno 2] " ++
                    Shell.faultReason fault)
            | .ok text =>
                if text ≠ scriptText then
                  Shell.failed started 1 crashReport
                else
                  match rest with
                  | [request, response] => evaluateRequest request response started
                  | _ =>
                      Shell.failed started 2
                        ("usage: " ++ scriptName ++ " REQUEST RESPONSE")
    | other => other

/-- The programs of a system that has an interpreter. -/
def installed : Shell.Installed :=
  ("python3", interpreterProgram) :: Shell.basePrograms

/-- The disk of such a system. -/
def systemDisk : Disk :=
  Shell.systemDisk installed

/-- The search path of such a system. -/
def systemSearchPath : List String :=
  Shell.systemDirectories

/-- The number of steps that a script may take. -/
def stepLimit : Nat := 4000

/-- The path under which a program is started: a bare name is looked for. -/
def programPath
    (environment : Environment)
    (interpreter : String) :
    Except FileFault String :=
  if interpreter.toList.contains '\x00' then
    .error (.other "nul byte found in provided data")
  else if interpreter.toList.contains '/' then
    .ok interpreter
  else
    match environment.onSearchPath? interpreter with
    | some path => if interpreter.isEmpty then .error .missing else .ok path
    | none => .error .missing

/-- A disk with the files of a batch. -/
def preparedDisk
    (disk : Disk)
    (expressions : List String) :
    Disk :=
  ((disk.addFile (batchPlace ++ [scriptName]) scriptText.toUTF8 false).addFile
    (batchPlace ++ [requestName]) (requestText expressions).toUTF8 false).addFile
    (batchPlace ++ [errorLogName]) ByteArray.empty false

/-- What a program put out as errors, without white space around it. -/
def errorText (logged : Shell.Bytes) : String :=
  match Shell.toText? logged with
  | some text => String.ofList (ApiTree.Text.trimChars text.toList)
  | none => ""

/-- The answers that the end of the interpreter gives. -/
def outcome
    (limit : Nat)
    (flow : Flow)
    (state : State) :
    Except ParserError Answers :=
  match flow with
  | .outOfTime => .error (.timeout (limit / 1000))
  | .killed signal =>
      .error (.failed (ExitStatus.signal signal).text (errorText state.logged))
  | _ =>
      if state.status ≠ 0 then
        .error (.failed (ExitStatus.code state.status).text (errorText state.logged))
      else
        match state.disk.readText (batchPath responseName) with
        | .error fault =>
            .error (.invalidResponse
              ("cannot read " ++ responseName ++ ": " ++ fault.text))
        | .ok text => readResponse text

/--
Runs a batch under an interpreter, for a number of milliseconds at most: the
answers, and the disk afterwards.
-/
def runBatch
    (environment : Environment)
    (interpreter : String)
    (limit : Nat)
    (expressions : List String) :
    Except ParserError Answers × Disk :=
  let host : Host := ⟨installed, signalNames, environment.searchPath⟩
  let start : State :=
    { disk := preparedDisk environment.disk expressions
      limit := limit }
  let arguments :=
    [scriptName, requestName, responseName].map fun name => Shell.ofText (batchPath name)
  let launched := do
    let path ← programPath environment interpreter
    Shell.runFile host stepLimit path arguments start
  match launched with
  | .error fault => (.error (.spawnFailed interpreter fault.text), environment.disk)
  | .ok (flow, state) =>
      ( if limit = 0 then .error (.timeout 0) else outcome limit flow state,
        state.disk.remove batchPlace )

/--
Finds an interpreter and runs a batch under it.  A batch of nothing is answered
without an interpreter.
-/
def parseBatch
    (environment : Environment)
    (path : Option String)
    (limit : Nat)
    (expressions : List String) :
    Except ParserError Answers × Disk :=
  if expressions.isEmpty then
    (.ok [], environment.disk)
  else
    match environment.findInterpreter path with
    | .error error => (.error (.discovery error), environment.disk)
    | .ok found => runBatch environment found.path limit expressions

end ApiTree.Interp
